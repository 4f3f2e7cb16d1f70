import Mathlib
import Rampart.Payload.Serializer
import Rampart.Proofs.Json.RoundTrip
import Rampart.Proofs.Type.AllowList

/-!
# What is read from a payload

Reading goes through three stages: the document, its tags, and the value.  Here each way of reading
is told by these stages alone, apart from what is put on record and handed to the audit log.

* `Serializer.readDocument_eq_ok_iff` : the documents that get through the first stage;
* `Serializer.readDocument_write` : what is written gets through it;
* `Serializer.result_takeTags` : the second stage is `bindTree`, which reports nothing;
* `Serializer.result_deserialize` : reading as a given type;
* `Serializer.result_deserializeBound` : reading as the type that the payload names.
-/

namespace Rampart.Payload

/-! ## Tags, without what is told about them -/

section

variable {C : Catalogue} (l : AllowList C)

/-- The trusted type that a tag names. -/
def resolveTag : Json → Except Failure (Descriptor C)
  | .str tag => (l.resolve (TypeName.tagKey tag)).mapError Failure.refused
  | other => .error (.payload (.tagNotText other.write))

/-- Takes the tags out of a value. -/
def bindTree (j : Json) : Except Failure (Json × Option (Descriptor C)) :=
  bindTreeWith (resolveTag l) j

/-- Takes the tags out of the items of an array. -/
def bindItems (items : List Json) : Except Failure (List Json) :=
  bindItemsWith (resolveTag l) items

/-- Takes the tags out of the members of an object, its own included. -/
def bindMembers (members : List (Text × Json)) : Except Failure (List (Text × Json)) :=
  bindMembersWith (resolveTag l) members

theorem bindTree_arr (items : List Json) :
    bindTree l (.arr items) = bindItems l items >>= fun items => .ok (.arr items, none) := by
  rw [bindTree, bindTreeWith]
  rfl

/-- A tagged object becomes its content, or its members where it has none. -/
theorem bindTree_obj_of_lookup {members : List (Text × Json)} {tag : Json}
    (htag : Json.lookup typeKey members = some tag) :
    bindTree l (.obj members) = resolveTag l tag >>= fun d => bindMembers l members >>= fun rest =>
      .ok ((Json.lookup valuesKey rest).getD (.obj rest), some d) := by
  rw [bindTree, bindTreeWith, htag]
  refine bind_congr fun d => bind_congr fun rest => ?_
  cases Json.lookup valuesKey rest <;> rfl

theorem bindTree_obj_of_not_mem {members : List (Text × Json)}
    (htag : Json.lookup typeKey members = none) :
    bindTree l (.obj members) = bindMembers l members >>= fun rest => .ok (.obj rest, none) := by
  rw [bindTree, bindTreeWith, htag]
  rfl

theorem bindItems_cons (j : Json) (rest : List Json) :
    bindItems l (j :: rest) = bindTree l j >>= fun r => bindItems l rest >>= fun rest =>
      .ok (r.1 :: rest) := by
  rw [bindItems, bindItemsWith]
  rfl

/-- The tag of an object is passed over. -/
theorem bindMembers_cons_typeKey (j : Json) (rest : List (Text × Json)) :
    bindMembers l ((typeKey, j) :: rest) = bindMembers l rest := by
  rw [bindMembers, bindMembersWith, if_pos rfl]
  rfl

theorem bindMembers_cons_of_ne {k : Text} (hk : k ≠ typeKey) (j : Json)
    (rest : List (Text × Json)) :
    bindMembers l ((k, j) :: rest) = bindTree l j >>= fun r => bindMembers l rest >>= fun rest =>
      .ok ((k, r.1) :: rest) := by
  rw [bindMembers, bindMembersWith, if_neg hk]
  rfl

end

namespace Serializer

variable {C : Catalogue} {s : Serializer C} {l : AllowList C} {payload : Text} {j : Json}

/-- A document is read from a text that is not blank, is JSON and is not nested too deep. -/
theorem readDocument_eq_ok_iff :
    s.readDocument payload = .ok j ↔
      payload.isBlank = false ∧ Json.parse payload = .ok j ∧
        ∀ limit, s.settings.maxDepth = some limit → j.depth ≤ limit := by
  rw [readDocument]
  cases hblank : payload.isBlank with
  | true =>
    refine iff_of_false (fun h => ?_) fun h => Bool.noConfusion h.1
    cases h
  | false =>
    rw [if_neg Bool.false_ne_true]
    cases Json.parse payload with
    | error e =>
      refine iff_of_false (fun h => ?_) fun h => ?_
      · cases h
      · cases h.2.1
    | ok j' =>
      cases hlimit : s.settings.maxDepth with
      | none =>
        show Except.ok j' = _ ↔ _
        simp
      | some limit =>
        show (if limit < j'.depth then _ else Except.ok j') = _ ↔ _
        split
        · rename_i hdeep
          refine iff_of_false (fun h => ?_) fun h => ?_
          · cases h
          · obtain ⟨-, hj, hdepth⟩ := h
            cases hj
            exact absurd (hdepth limit rfl) (Nat.not_le.2 hdeep)
        · rename_i hdeep
          simp only [Except.ok.injEq, Option.some.injEq, forall_eq', true_and]
          refine ⟨fun h => ⟨h, ?_⟩, fun h => h.1⟩
          rw [← h]
          exact Nat.not_lt.1 hdeep

/-- A document is not read because the payload is blank, is not JSON or is nested too deep. -/
theorem failure_of_readDocument {f : Failure} (h : s.readDocument payload = .error f) :
    f = .refused .blankPayload ∨ (∃ e, f = .payload (.malformed e)) ∨
      ∃ depth limit, f = .payload (.tooDeep depth limit) := by
  rw [readDocument] at h
  split at h
  · cases h
    exact Or.inl rfl
  · cases hparse : Json.parse payload with
    | error e =>
      rw [hparse] at h
      cases h
      exact Or.inr (Or.inl ⟨e, rfl⟩)
    | ok j =>
      rw [hparse] at h
      cases hlimit : s.settings.maxDepth with
      | none =>
        rw [hlimit] at h
        cases h
      | some limit =>
        rw [hlimit] at h
        replace h : (if limit < j.depth then Except.error (.payload (.tooDeep j.depth limit))
          else .ok j) = Except.error f := h
        split at h
        · cases h
          exact Or.inr (Or.inr ⟨j.depth, limit, rfl⟩)
        · cases h

/-- A legible document that is not nested too deep is read back from its text. -/
theorem readDocument_write (hback : j.ReadsBack) (hroom : j.depth ≤ Json.maxRoom)
    (hdepth : ∀ limit, s.settings.maxDepth = some limit → j.depth ≤ limit) :
    s.readDocument j.write = .ok j := by
  refine readDocument_eq_ok_iff.2 ⟨?_, Json.parse_write hback hroom, hdepth⟩
  obtain ⟨c, t, hct, hc⟩ := Json.exists_write hback
  rw [hct, Text.isBlank, List.all_cons, hc.1, Bool.false_and]

/-! ## Taking tags out -/

section

variable (resolve : Json → Report (Descriptor C))

theorem result_bindItemsWith {items : List Json}
    (h : ∀ j ∈ items,
      (bindTreeWith resolve j).result = bindTreeWith (fun v => (resolve v).result) j) :
    (bindItemsWith resolve items).result
      = bindItemsWith (fun v => (resolve v).result) items := by
  induction items with
  | nil => rw [bindItemsWith, bindItemsWith]; rfl
  | cons j rest ih =>
    rw [List.forall_mem_cons] at h
    rw [bindItemsWith, bindItemsWith, Report.result_bind, h.1]
    refine bind_congr fun r => ?_
    rw [Report.result_bind, ih h.2]
    rfl

theorem result_bindMembersWith {members : List (Text × Json)}
    (h : ∀ m ∈ members,
      (bindTreeWith resolve m.2).result = bindTreeWith (fun v => (resolve v).result) m.2) :
    (bindMembersWith resolve members).result
      = bindMembersWith (fun v => (resolve v).result) members := by
  induction members with
  | nil => rw [bindMembersWith, bindMembersWith]; rfl
  | cons m rest ih =>
    obtain ⟨k, j⟩ := m
    rw [List.forall_mem_cons] at h
    rw [bindMembersWith, bindMembersWith]
    split
    · exact ih h.2
    · rw [Report.result_bind, h.1]
      refine bind_congr fun r => ?_
      rw [Report.result_bind, ih h.2]
      rfl

/-- What is told about tags has no bearing on what becomes of a value. -/
theorem result_bindTreeWith (j : Json) :
    (bindTreeWith resolve j).result = bindTreeWith (fun v => (resolve v).result) j := by
  induction j using Json.induction with
  | null => rfl
  | bool b => rfl
  | num n => rfl
  | str t => rfl
  | arr items ih =>
    rw [bindTreeWith, bindTreeWith, Report.result_bind, result_bindItemsWith resolve ih]
    rfl
  | obj members ih =>
    have hmembers := result_bindMembersWith resolve ih
    rw [bindTreeWith, bindTreeWith]
    cases Json.lookup typeKey members with
    | none =>
      rw [Report.result_bind, hmembers]
      rfl
    | some tag =>
      rw [Report.result_bind]
      refine bind_congr fun d => ?_
      rw [Report.result_bind, hmembers]
      refine bind_congr fun rest => ?_
      cases Json.lookup valuesKey rest <;> rfl

end

/-- The type that a tag names, without what is told about it. -/
theorem result_resolveTag (s : Serializer C) (l : AllowList C) (v : Json) :
    (s.resolveTag l v).result = Payload.resolveTag l v := by
  cases v with
  | str tag =>
    rw [resolveTag, Payload.resolveTag]
    cases l.resolve (TypeName.tagKey tag) <;> rfl
  | null => rfl
  | bool b => rfl
  | num n => rfl
  | arr items => rfl
  | obj members => rfl

/-- Tags are taken out in the same way whether or not there is an audit log. -/
theorem result_takeTags (s : Serializer C) (l : AllowList C) (j : Json) :
    (s.takeTags l j).result = bindTree l j := by
  have hresolve : (fun v => (s.resolveTag l v).result) = Payload.resolveTag l :=
    funext (result_resolveTag s l)
  rw [takeTags, result_bindTreeWith, hresolve, bindTree]

/-! ## Reading -/

/-- A value that does not fit its type is the only failure of decoding. -/
theorem failure_of_decode {c : C.Code} {j : Json} {f : Failure} (h : decode c j = .error f) :
    ∃ m, f = .payload (.mismatch m) := by
  rw [decode] at h
  cases hdecode : C.decode c j with
  | ok v =>
    rw [hdecode] at h
    cases h
  | error m =>
    rw [hdecode] at h
    cases h
    exact ⟨m, rfl⟩

/-- The value of type `c` in a document whose tags were taken out, where `tag` is that of the
root. -/
def decodeAs (c : C.Code) (j : Json) (tag : Option (Descriptor C)) : Except Failure (C.Value c) :=
  match tag with
  | none => decode c j
  | some d =>
    if d.code = c then decode c j else .error (.payload (.otherType d.identity (C.fullName c)))

/-- The value in a document whose tags were taken out, of the type that the root is tagged with. -/
def decodeBound (j : Json) (tag : Option (Descriptor C)) : Except Failure (Bound C) :=
  match tag with
  | none => .error (.payload .untagged)
  | some d => (decode d.code j).map (Bound.mk d)

/-- Decoding as a given type fails because the value does not fit or the root is of another
type. -/
theorem failure_of_decodeAs {c : C.Code} {tag : Option (Descriptor C)} {f : Failure}
    (h : decodeAs c j tag = .error f) :
    (∃ m, f = .payload (.mismatch m)) ∨
      ∃ declared requested, f = .payload (.otherType declared requested) := by
  cases tag with
  | none => exact Or.inl (failure_of_decode h)
  | some d =>
    rw [decodeAs] at h
    split at h
    · exact Or.inl (failure_of_decode h)
    · cases h
      exact Or.inr ⟨_, _, rfl⟩

/-- Decoding as the tagged type fails because there is no tag or the value does not fit. -/
theorem failure_of_decodeBound {tag : Option (Descriptor C)} {f : Failure}
    (h : decodeBound j tag = .error f) :
    f = .payload .untagged ∨ ∃ m, f = .payload (.mismatch m) := by
  cases tag with
  | none =>
    cases h
    exact Or.inl rfl
  | some d =>
    rw [decodeBound] at h
    cases hdecode : decode d.code j with
    | ok v =>
      rw [hdecode] at h
      cases h
    | error f' =>
      rw [hdecode] at h
      cases h
      exact Or.inr (failure_of_decode hdecode)

theorem result_readBound (j : Json) (tag : Option (Descriptor C)) :
    (readBound j tag).result = decodeBound j tag := by
  cases tag with
  | none => rfl
  | some d =>
    rw [readBound, decodeBound, Report.result_bind, Report.result_ofResult]
    cases decode d.code j <;> rfl

/-- The decoder of a descriptor gives values of its own type, so what it gives is never of another
type than the one asked for. -/
theorem result_readAs (c : C.Code) (j : Json) (tag : Option (Descriptor C)) :
    (readAs c j tag).result = decodeAs c j tag := by
  cases tag with
  | none => rfl
  | some d =>
    rw [readAs, decodeAs]
    split
    · rename_i hcode
      subst hcode
      rw [Report.result_bind, result_readBound, decodeBound]
      cases decode d.code j with
      | error f => rfl
      | ok v =>
        have hdown : (Bound.mk d v).downcast d.code = some v := Bound.downcast_code ⟨d, v⟩
        simp only [Except.map, bind, Except.bind, hdown]
        rfl
    · rfl

/-- Reading as a given type takes the tags out and decodes the rest. -/
theorem result_deserialize (hactive : s.active = some l) (hread : s.readDocument payload = .ok j)
    (c : C.Code) :
    (s.deserialize c payload).result = bindTree l j >>= fun r => decodeAs c r.1 r.2 := by
  rw [deserialize, Report.result_bind, Report.result_ofResult, hread, hactive]
  show (s.takeTags l j >>= fun r => readAs c r.1 r.2).result = _
  rw [Report.result_bind, result_takeTags]
  exact bind_congr fun r => result_readAs c r.1 r.2

/-- Reading as the tagged type takes the tags out and decodes the rest. -/
theorem result_deserializeBound (hactive : s.active = some l)
    (hread : s.readDocument payload = .ok j) :
    (s.deserializeBound payload).result = bindTree l j >>= fun r => decodeBound r.1 r.2 := by
  rw [deserializeBound, hactive]
  show (Report.ofResult (s.readDocument payload) >>= _).result = _
  rw [Report.result_bind, Report.result_ofResult, hread]
  show (s.takeTags l j >>= fun r => readBound r.1 r.2).result = _
  rw [Report.result_bind, result_takeTags]
  exact bind_congr fun r => result_readBound r.1 r.2

end Serializer

/-! ## A small catalogue -/

namespace Sample

/-- One type, whose values are all documents. -/
def catalogue : Catalogue where
  Code := Unit
  decEq := inferInstance
  Value _ := Json
  fullName _ := ['d', ':', ':', 'D']
  decode _ j := .ok j
  encode _ j := .ok j

/-- That type under the identity `D, d`. -/
def descriptor : Descriptor catalogue := ⟨['D'], ['d'], ()⟩

/-- The allow-list with that type. -/
def allowList : AllowList catalogue :=
  ⟨[(descriptor.key, descriptor)], [((), descriptor.key)]⟩

theorem build_allowList : AllowList.build (some [descriptor]) = .ok allowList := by
  have hfind : Exploitable.find? descriptor.identity = none :=
    Exploitable.find?_of_dot_not_mem (by decide)
  exact AllowList.build_of_not_exploitable (List.cons_ne_nil _ _) (by simpa using hfind)

/-- A serializer with that allow-list. -/
def serializer (tagging : Tagging) : Serializer catalogue :=
  { allowList := some allowList, settings := { tagging } }

end Sample

end Rampart.Payload

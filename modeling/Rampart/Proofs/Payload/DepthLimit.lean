import Mathlib
import Rampart.Proofs.Json.Depth
import Rampart.Proofs.Payload.Erasure

/-!
# What the limit of nesting bounds

The limit is checked once, on the document as it was read.  Tags are then taken out at every level,
and what comes of it is decoded.  Nothing gets deeper on the way, so the limit holds for all that a
decoder is given: a decoder that would do otherwise with deeper values could not be told from the
one that there is.

* `depth_erase_le` : erasing tags makes nothing deeper;
* `depth_attachTag` : a tag makes a document deeper only where it is put around an array;
* `Serializer.withDecoders` : the same serializer with other decoders;
* `Serializer.deserialize_withDecoders`, `Serializer.deserializeBound_withDecoders` : what decoders
  do with values beyond the limit has no bearing on reading;
* `Serializer.limit_bounds_what_is_decoded` : all of it together.
-/

namespace Rampart

/-! ## Erasing and attaching -/

namespace Payload

variable {C : Catalogue} {l : AllowList C}

/-- Erasing tags makes nothing deeper. -/
theorem depth_erase_le (j : Json) : (erase j).depth ≤ j.depth := by
  induction j using Json.induction with
  | arr items ih =>
    rw [erase_arr]
    refine Json.depth_le_depth_of_children rfl fun x hx => Or.inr ?_
    obtain ⟨i, hi, rfl⟩ := List.mem_map.1 hx
    exact ⟨i, hi, ih i hi⟩
  | obj members ih =>
    have hkept : Json.depth (.obj (eraseMembers members)) ≤ Json.depth (.obj members) := by
      refine Json.depth_le_depth_of_children rfl fun x hx => Or.inr ?_
      rw [Json.children, eraseMembers_eq_map, List.map_map] at hx
      obtain ⟨m, hm, rfl⟩ := List.mem_map.1 hx
      have hmem : m ∈ members := List.mem_of_mem_filter hm
      exact ⟨m.2, List.mem_map_of_mem hmem, ih m hmem⟩
    cases htag : Json.lookup typeKey members with
    | none =>
      rw [erase_obj_of_kept (Or.inl htag)]
      exact hkept
    | some tag =>
      cases hcontent : Json.lookup valuesKey members with
      | none =>
        rw [erase_obj_of_kept (Or.inr hcontent)]
        exact hkept
      | some content =>
        -- the content stands inside the object that it takes the place of
        have hmem : (valuesKey, content) ∈ members := Json.mem_of_lookup hcontent
        have hlt : content.depth < Json.depth (.obj members) :=
          Json.depth_lt_of_mem_children (List.mem_map_of_mem hmem)
        rw [erase_obj_of_content htag hcontent]
        exact (ih _ hmem).trans hlt.le
  | _ => exact le_rfl

/-- What is left of a document when its tags are taken out is no deeper than the document. -/
theorem depth_le_of_takeTags {s : Serializer C} {v w : Json} {tag : Option (Descriptor C)}
    (h : (s.takeTags l v).result = .ok (w, tag)) : w.depth ≤ v.depth := by
  rw [Serializer.result_takeTags] at h
  rw [erase_of_bindTree h]
  exact depth_erase_le v

/-- Whether a tag is put around a value, and not into it. -/
def Tagging.wraps (t : Tagging) : Json → Bool
  | .arr _ => t.tagsArrays
  | _ => false

/-- An object with a tag in front is as deep as without it, also if it has a member of that key
itself. -/
theorem depth_tagged_obj {members : List (Text × Json)} (hnodup : (Json.keys members).Nodup)
    (tag : Text) :
    Json.depth (.obj ((typeKey, (Json.lookup typeKey members).getD (.str tag))
      :: Json.erase typeKey members)) = Json.depth (.obj members) := by
  apply le_antisymm
  · refine Json.depth_le_depth_of_children rfl fun x hx => ?_
    rw [Json.children, List.map_cons, List.mem_cons] at hx
    rcases hx with rfl | hx
    · cases hown : Json.lookup typeKey members with
      | none => exact Or.inl rfl
      | some own => exact Or.inr ⟨own, List.mem_map_of_mem (Json.mem_of_lookup hown), le_rfl⟩
    · obtain ⟨m, hm, rfl⟩ := List.mem_map.1 hx
      exact Or.inr ⟨m.2, List.mem_map_of_mem (List.mem_of_mem_filter hm), le_rfl⟩
  · refine Json.depth_le_depth_of_children rfl fun x hx => Or.inr ⟨x, ?_, le_rfl⟩
    obtain ⟨⟨k, x⟩, hm, rfl⟩ := List.mem_map.1 hx
    rw [Json.children, List.map_cons, List.mem_cons]
    by_cases hk : k = typeKey
    · subst hk
      rw [Json.lookup_of_mem hnodup hm]
      exact Or.inl rfl
    · have hkept : (k, x) ∈ Json.erase typeKey members :=
        List.mem_filter.2 ⟨hm, bne_iff_ne.2 hk⟩
      exact Or.inr (List.mem_map_of_mem hkept)

/-- The document for a value is as deep as the value, and one deeper if the tag is put around it. -/
theorem depth_attachTag {j : Json} (hkeys : j.KeysDistinct) (t : Tagging) (tag : Text) :
    (attachTag t tag j).depth = j.depth + (t.wraps j).toNat := by
  cases htagged : t.tagsRoot j with
  | false =>
    cases j with
    | arr items =>
      rw [Tagging.tagsRoot] at htagged
      rw [attachTag, Tagging.wraps, htagged]
      rfl
    | obj members =>
      rw [Tagging.tagsRoot] at htagged
      rw [attachTag, htagged]
      rfl
    | _ => rfl
  | true =>
    rw [attachTag_eq hkeys htagged]
    cases j with
    | arr items =>
      rw [Tagging.tagsRoot] at htagged
      rw [Tagging.wraps, htagged]
      show 1 + max 0 (max (Json.depth (.arr items)) 0) = Json.depth (.arr items) + 1
      omega
    | obj members => exact depth_tagged_obj (Json.keysDistinct_obj.1 hkeys).1 tag
    | _ => cases htagged

end Payload

/-! ## Other decoders -/

/-- The same types with other decoders. -/
def Catalogue.withDecoders (C : Catalogue)
    (decoders : (c : C.Code) → Json → Json.Decoding (C.Value c)) : Catalogue :=
  { C with decode := decoders }

section

variable {C : Catalogue} (decoders : (c : C.Code) → Json → Json.Decoding (C.Value c))

/-- The same type under the same name. -/
def Descriptor.withDecoders (d : Descriptor C) : Descriptor (C.withDecoders decoders) :=
  ⟨d.fullName, d.assembly, d.code⟩

namespace AllowList

/-- The allow-list of the same names. -/
def withDecoders (l : AllowList C) : AllowList (C.withDecoders decoders) :=
  ⟨l.entries.map (Prod.map id (Descriptor.withDecoders decoders)), l.tags⟩

theorem find?_withDecoders (l : AllowList C) (key : TypeName.Key) :
    (l.withDecoders decoders).find? key
      = (l.find? key).map (Descriptor.withDecoders decoders) := by
  rw [find?, find?, withDecoders, List.find?_map, Option.map_map, Option.map_map]
  rfl

/-- A name is resolved to the same type. -/
theorem resolve_withDecoders (l : AllowList C) (key : TypeName.Key) :
    (l.withDecoders decoders).resolve key
      = (l.resolve key).map (Descriptor.withDecoders decoders) := by
  rw [resolve, resolve, find?_withDecoders]
  cases l.find? key <;> rfl

end AllowList

end

namespace Payload

/-! ## Types of two catalogues -/

section

variable {C D : Catalogue} {m : Type → Type} [Monad m] [LawfulMonad m]
  (f : Descriptor C → Descriptor D) (resolve : Json → m (Descriptor C))

theorem bindItemsWith_map {items : List Json}
    (h : ∀ j ∈ items, bindTreeWith (fun v => f <$> resolve v) j
      = Prod.map id (Option.map f) <$> bindTreeWith resolve j) :
    bindItemsWith (fun v => f <$> resolve v) items = bindItemsWith resolve items := by
  induction items with
  | nil => rw [bindItemsWith, bindItemsWith]
  | cons j rest ih =>
    rw [List.forall_mem_cons] at h
    rw [bindItemsWith, bindItemsWith, h.1, ih h.2, bind_map_left]
    rfl

theorem bindMembersWith_map {members : List (Text × Json)}
    (h : ∀ n ∈ members, bindTreeWith (fun v => f <$> resolve v) n.2
      = Prod.map id (Option.map f) <$> bindTreeWith resolve n.2) :
    bindMembersWith (fun v => f <$> resolve v) members = bindMembersWith resolve members := by
  induction members with
  | nil => rw [bindMembersWith, bindMembersWith]
  | cons n rest ih =>
    obtain ⟨k, j⟩ := n
    rw [List.forall_mem_cons] at h
    rw [bindMembersWith, bindMembersWith, h.1, ih h.2, bind_map_left]
    rfl

/-- What the types are that tags are resolved to has no bearing on what is left of a document. -/
theorem bindTreeWith_map (j : Json) :
    bindTreeWith (fun v => f <$> resolve v) j
      = Prod.map id (Option.map f) <$> bindTreeWith resolve j := by
  induction j using Json.induction with
  | arr items ih =>
    rw [bindTreeWith, bindTreeWith, bindItemsWith_map f resolve ih, map_bind]
    simp only [map_pure]
    rfl
  | obj members ih =>
    have hmembers := bindMembersWith_map f resolve ih
    rw [bindTreeWith, bindTreeWith, hmembers]
    cases Json.lookup typeKey members with
    | none =>
      simp only [map_bind, map_pure]
      rfl
    | some tag =>
      simp only [map_bind, bind_map_left]
      refine bind_congr fun d => bind_congr fun rest => ?_
      cases Json.lookup valuesKey rest <;> rw [map_pure] <;> rfl
  | _ =>
    show pure (_, none) = Prod.map id (Option.map f) <$> pure (_, none)
    rw [map_pure]
    rfl

end

variable {C : Catalogue} (decoders : (c : C.Code) → Json → Json.Decoding (C.Value c))

/-- The same value, bound to the same type. -/
def Bound.withDecoders (b : Bound C) : Bound (C.withDecoders decoders) :=
  ⟨b.descriptor.withDecoders decoders, b.value⟩

namespace Serializer

/-- The same serializer with other decoders. -/
def withDecoders (s : Serializer C) : Serializer (C.withDecoders decoders) where
  allowList := s.allowList.map (AllowList.withDecoders decoders)
  settings := s.settings
  audited := s.audited

theorem active_withDecoders (s : Serializer C) :
    (s.withDecoders decoders).active = s.active.map (AllowList.withDecoders decoders) := by
  unfold active
  show (if s.settings.tagging.isEnabled then s.allowList.map _ else none) = _
  split <;> rfl

/-- A tag is answered by the same type, and with the same to tell. -/
theorem resolveTag_withDecoders (s : Serializer C) (l : AllowList C) (v : Json) :
    (s.withDecoders decoders).resolveTag (l.withDecoders decoders) v
      = Descriptor.withDecoders decoders <$> s.resolveTag l v := by
  cases v with
  | str tag =>
    rw [resolveTag, resolveTag, AllowList.resolve_withDecoders]
    cases l.resolve (TypeName.tagKey tag) <;> rfl
  | _ => rfl

/-- Nothing is decoded while tags are taken out. -/
theorem takeTags_withDecoders (s : Serializer C) (l : AllowList C) (j : Json) :
    (s.withDecoders decoders).takeTags (l.withDecoders decoders) j
      = Prod.map id (Option.map (Descriptor.withDecoders decoders)) <$> s.takeTags l j := by
  have hresolve : (s.withDecoders decoders).resolveTag (l.withDecoders decoders)
      = fun v => Descriptor.withDecoders decoders <$> s.resolveTag l v :=
    funext (s.resolveTag_withDecoders decoders l)
  rw [takeTags, takeTags, hresolve]
  exact bindTreeWith_map _ _ j

/-! ## Decoders that agree on what they are given -/

section

variable {decoders} {j : Json} (hj : ∀ c, decoders c j = C.decode c j)

include hj

theorem decode_withDecoders (c : C.Code) :
    decode (C := C.withDecoders decoders) c j = decode (C := C) c j := by
  show (decoders c j).mapError _ = (C.decode c j).mapError _
  rw [hj]

theorem readBound_withDecoders (tag : Option (Descriptor C)) :
    readBound j (tag.map (Descriptor.withDecoders decoders))
      = Bound.withDecoders decoders <$> readBound j tag := by
  cases tag with
  | none => rfl
  | some d =>
    rw [Option.map_some, readBound, readBound, map_bind]
    have hdecode : decode (C := C.withDecoders decoders) (d.withDecoders decoders).code j
        = decode (C := C) d.code j := decode_withDecoders hj d.code
    rw [hdecode]
    rfl

theorem readAs_withDecoders (c : C.Code) (tag : Option (Descriptor C)) :
    readAs (C := C.withDecoders decoders) c j (tag.map (Descriptor.withDecoders decoders))
      = readAs (C := C) c j tag := by
  cases tag with
  | none => exact congrArg Report.ofResult (decode_withDecoders hj c)
  | some d =>
    have hbound := readBound_withDecoders hj (some d)
    rw [Option.map_some] at hbound
    rw [Option.map_some]
    unfold readAs
    refine ite_congr rfl (fun _ => ?_) fun _ => rfl
    rw [hbound, bind_map_left]
    refine bind_congr fun b => ?_
    -- decoders have no say in what the type of a bound value is
    have hdown : (b.withDecoders decoders).downcast c = b.downcast c := rfl
    rw [hdown]
    cases b.downcast c <;> rfl

end

/-! ## Decoders that agree up to the limit -/

section

variable {decoders} {s : Serializer C} {limit : Nat}
  (hlimit : s.settings.maxDepth = some limit)
  (hagree : ∀ c j, j.depth ≤ limit → decoders c j = C.decode c j)

include hlimit hagree

/-- Decoders that agree up to the limit agree on every document that is read. -/
theorem agree_of_readDocument {payload : Text} {j : Json}
    (hread : s.readDocument payload = .ok j) (c : C.Code) : decoders c j = C.decode c j :=
  hagree c j ((readDocument_eq_ok_iff.1 hread).2.2 limit hlimit)

/-- They also agree on what is left of it when its tags are taken out. -/
theorem agree_of_takeTags {payload : Text} {j : Json} {l : AllowList C}
    {r : Json × Option (Descriptor C)} (hread : s.readDocument payload = .ok j)
    (htake : (s.takeTags l j).result = .ok r) (c : C.Code) :
    decoders c r.1 = C.decode c r.1 := by
  have hdepth : j.depth ≤ limit := (readDocument_eq_ok_iff.1 hread).2.2 limit hlimit
  exact hagree c r.1 ((depth_le_of_takeTags htake).trans hdepth)

/-- What decoders do with values beyond the limit has no bearing on reading as a given type, neither
on the result nor on what is told. -/
theorem deserialize_withDecoders (c : C.Code) (payload : Text) :
    (s.withDecoders decoders).deserialize c payload = s.deserialize c payload := by
  unfold deserialize
  rw [active_withDecoders]
  refine Report.bind_congr_of_ok fun j hread => ?_
  cases s.active with
  | none =>
    exact congrArg Report.ofResult
      (decode_withDecoders (agree_of_readDocument hlimit hagree hread) c)
  | some l =>
    show (s.withDecoders decoders).takeTags (l.withDecoders decoders) j >>= _ = _
    rw [takeTags_withDecoders, bind_map_left]
    refine Report.bind_congr_of_ok fun r htake => ?_
    exact readAs_withDecoders (agree_of_takeTags hlimit hagree hread htake) c r.2

/-- Nor has it on reading as the type that the payload names. -/
theorem deserializeBound_withDecoders (payload : Text) :
    (s.withDecoders decoders).deserializeBound payload
      = Bound.withDecoders decoders <$> s.deserializeBound payload := by
  rw [deserializeBound, deserializeBound, active_withDecoders]
  cases s.active with
  | none => rfl
  | some l =>
    simp only [Option.map_some, map_bind]
    refine Report.bind_congr_of_ok fun j hread => ?_
    rw [takeTags_withDecoders, bind_map_left]
    refine Report.bind_congr_of_ok fun r htake => ?_
    exact readBound_withDecoders (agree_of_takeTags hlimit hagree hread htake) r.2

end

/-- **The limit of nesting bounds what is decoded.**  The depth of a value is the greatest number of
arrays and objects on a way from it to one of its nodes, and taking tags out makes nothing deeper.
So no decoder is given a value beyond the limit: decoders that agree up to the limit cannot be told
apart by reading, be it by the result or by what is put on record and handed to the audit log.  The
document that is written for a value with distinct keys is as deep as the value, and one deeper
exactly where an array is put into `$values`. -/
theorem limit_bounds_what_is_decoded (s : Serializer C) :
    (∀ v : Json,
      IsGreatest {k | ∃ n ∈ v.nodes, ∃ path, v.PathTo n path ∧ path.countP Json.isContainer = k}
        v.depth) ∧
    (∀ l v w tag, (s.takeTags l v).result = .ok (w, tag) → w.depth ≤ v.depth) ∧
    (∀ limit, s.settings.maxDepth = some limit →
      ∀ decoders : (c : C.Code) → Json → Json.Decoding (C.Value c),
      (∀ c j, j.depth ≤ limit → decoders c j = C.decode c j) →
      (∀ c payload, (s.withDecoders decoders).deserialize c payload = s.deserialize c payload) ∧
      ∀ payload, (s.withDecoders decoders).deserializeBound payload
        = Bound.withDecoders decoders <$> s.deserializeBound payload) ∧
    ∀ l c v j, s.active = some l → C.encode c v = .ok j → j.KeysDistinct →
      ∃ doc : Json, (s.serializeTagged c v).result = .ok doc.write ∧
        (doc.ReadsBack → doc.depth ≤ Json.maxRoom → Json.parse doc.write = .ok doc) ∧
        doc.depth = j.depth + (s.settings.tagging.wraps j).toNat := by
  refine ⟨Json.isGreatest_depth, fun l v w tag h => depth_le_of_takeTags h, ?_, ?_⟩
  · intro limit hlimit decoders hagree
    exact ⟨deserialize_withDecoders hlimit hagree, deserializeBound_withDecoders hlimit hagree⟩
  · intro l c v j hactive hencode hkeys
    exact ⟨s.written l c j, result_serializeTagged hactive hencode, Json.parse_write,
      depth_attachTag hkeys _ _⟩

end Serializer

namespace Sample

/-- A serializer that takes three levels of nesting. -/
def threeDeep : Serializer catalogue :=
  { allowList := some allowList, settings := { tagging := .auto, maxDepth := some 3 } }

/-- A decoder that fails beyond three levels. -/
def decodeThreeDeep (c : catalogue.Code) (j : Json) : Json.Decoding (catalogue.Value c) :=
  if j.depth ≤ 3 then .ok j else .error (.other [])

end Sample

/-- A document with tags at two levels that is just as deep as the limit allows is read alike by the
decoder that fails beyond the limit, and what it gives is less deep; an array gets one deeper when
it is written with a tag around it. -/
theorem limit_bounds_what_is_decoded_three_deep :
    (Sample.trusted.depth = 3 ∧
      (Sample.threeDeep.takeTags Sample.allowList Sample.trusted).result
        = .ok (.arr [.obj []], some Sample.descriptor) ∧
      Json.depth (.arr [.obj []]) ≤ Sample.trusted.depth) ∧
    ((Sample.threeDeep.withDecoders Sample.decodeThreeDeep).deserialize () Sample.trusted.write
        = Sample.threeDeep.deserialize () Sample.trusted.write ∧
      (Sample.threeDeep.deserialize () Sample.trusted.write).result = .ok (.arr [.obj []])) ∧
    ∃ doc : Json, (Sample.threeDeep.serializeTagged () Sample.list).result = .ok doc.write ∧
      doc.depth = Sample.list.depth + 1 := by
  obtain ⟨-, htake, hread, hwrite⟩ :=
    Serializer.limit_bounds_what_is_decoded Sample.threeDeep
  have hactive : Sample.threeDeep.active = some Sample.allowList := rfl
  have hresult : (Sample.threeDeep.takeTags Sample.allowList Sample.trusted).result
      = .ok (.arr [.obj []], some Sample.descriptor) := rfl
  have hdocument : Sample.threeDeep.readDocument Sample.trusted.write = .ok Sample.trusted :=
    Serializer.readDocument_write Sample.readsBack_trusted (by decide) (by decide)
  refine ⟨⟨rfl, hresult, htake _ _ _ _ hresult⟩, ⟨?_, ?_⟩, ?_⟩
  · exact (hread 3 rfl Sample.decodeThreeDeep fun c j hj => if_pos hj).1 () _
  · exact Serializer.result_deserialize hactive hdocument ()
  · obtain ⟨doc, hdoc, -, hdepth⟩ := hwrite Sample.allowList () Sample.list Sample.list hactive rfl
      (Json.keysDistinct_of_readsBack Sample.readsBack_list)
    exact ⟨doc, hdoc, hdepth⟩

end Payload

end Rampart

import Mathlib
import Rampart.Proofs.Payload.Reading

/-!
# Tags come and go

Writing puts a tag at the root of a document or leaves it alone; reading takes all tags out.  Where
a value has no tags of its own, the second undoes the first, whatever is tagged.

* `bindTreeWith_of_untagged`, `bindTree_of_untagged` : a document without tags stays as it is;
* `bindTree_attachTag` : the tag that was put in is found and taken out;
* `deserialize_of_serializeTagged` : what this means for payloads.
-/

namespace Rampart.Payload

variable {C : Catalogue} {l : AllowList C}

/-! ## Documents without tags -/

/-- No object inside a value has a tag. -/
def Untagged (j : Json) : Prop := ∀ n ∈ j.nodes, n.get? typeKey = none

theorem untagged_arr {items : List Json} : Untagged (.arr items) ↔ ∀ j ∈ items, Untagged j := by
  rw [Untagged, Json.forall_nodes_arr]
  exact and_iff_right rfl

theorem untagged_obj {members : List (Text × Json)} :
    Untagged (.obj members) ↔
      typeKey ∉ Json.keys members ∧ ∀ m ∈ members, Untagged m.2 := by
  rw [Untagged, Json.forall_nodes_obj, Json.get?, Json.lookup_eq_none_iff]
  rfl

section

variable {m : Type → Type} [Monad m] [LawfulMonad m] {resolve : Json → m (Descriptor C)}

/-- Items that stay as they are. -/
theorem bindItemsWith_of_forall {items : List Json}
    (h : ∀ j ∈ items, bindTreeWith resolve j = pure (j, none)) :
    bindItemsWith resolve items = pure items := by
  induction items with
  | nil => rw [bindItemsWith]
  | cons j rest ih =>
    rw [List.forall_mem_cons] at h
    rw [bindItemsWith, h.1, ih h.2]
    simp only [pure_bind]

/-- Members that stay as they are. -/
theorem bindMembersWith_of_forall {members : List (Text × Json)}
    (hkeys : typeKey ∉ Json.keys members)
    (h : ∀ n ∈ members, bindTreeWith resolve n.2 = pure (n.2, none)) :
    bindMembersWith resolve members = pure members := by
  induction members with
  | nil => rw [bindMembersWith]
  | cons n rest ih =>
    obtain ⟨k, j⟩ := n
    rw [List.forall_mem_cons] at h
    rw [Json.keys, List.map_cons, List.mem_cons, not_or] at hkeys
    rw [bindMembersWith, if_neg (Ne.symm hkeys.1), h.1, ih hkeys.2 h.2]
    simp only [pure_bind]

/-- A document without tags stays as it is, however tags are resolved. -/
theorem bindTreeWith_of_untagged {j : Json} (hj : Untagged j) :
    bindTreeWith resolve j = pure (j, none) := by
  induction j using Json.induction with
  | null => rfl
  | bool b => rfl
  | num n => rfl
  | str s => rfl
  | arr items ih =>
    rw [untagged_arr] at hj
    rw [bindTreeWith, bindItemsWith_of_forall fun j hmem => ih j hmem (hj j hmem), pure_bind]
  | obj members ih =>
    rw [untagged_obj] at hj
    have hmembers : bindMembersWith resolve members = pure members :=
      bindMembersWith_of_forall hj.1 fun n hn => ih n hn (hj.2 n hn)
    rw [bindTreeWith, Json.lookup_eq_none_iff.2 hj.1, hmembers]
    simp only [pure_bind]

end

/-- The same where tags are looked up in an allow-list. -/
theorem bindMembers_of_forall {members : List (Text × Json)}
    (hkeys : typeKey ∉ Json.keys members) (h : ∀ m ∈ members, bindTree l m.2 = .ok (m.2, none)) :
    bindMembers l members = .ok members :=
  bindMembersWith_of_forall hkeys h

/-- A document without tags stays as it is under every allow-list. -/
theorem bindTree_of_untagged {j : Json} (hj : Untagged j) : bindTree l j = .ok (j, none) :=
  bindTreeWith_of_untagged hj

/-! ## Documents with a tag at the root -/

/-- Whether the root of the document for a value is tagged. -/
def Tagging.tagsRoot (t : Tagging) : Json → Bool
  | .obj _ => t.tagsObjects
  | .arr _ => t.tagsArrays
  | _ => false

variable {tag : Text} {d : Descriptor C}

/-- A tag is not content. -/
theorem typeKey_ne_valuesKey : typeKey ≠ valuesKey := by decide

/-- A tagged object becomes its content, or its members where it has none. -/
theorem bindTree_tagged {members members' : List (Text × Json)}
    (htag : Json.lookup typeKey members = some (.str tag))
    (hresolve : l.resolve (TypeName.tagKey tag) = .ok d)
    (hbind : bindMembers l members = .ok members') :
    bindTree l (.obj members)
      = .ok ((Json.lookup valuesKey members').getD (.obj members'), some d) := by
  rw [bindTree_obj_of_lookup l htag, resolveTag, hresolve, hbind]
  rfl

/-- **Taking out what was put in.**  A document without tags, and without content at its root, is
what is left of the one with the tag, together with the type that the tag names if there is one. -/
theorem bindTree_attachTag {j : Json} (hresolve : l.resolve (TypeName.tagKey tag) = .ok d)
    (hj : Untagged j) (hkeys : j.KeysDistinct) (hvalues : j.get? valuesKey = none) (t : Tagging) :
    bindTree l (attachTag t tag j) = .ok (j, if t.tagsRoot j then some d else none) := by
  cases j with
  | null => rfl
  | bool b => rfl
  | num n => rfl
  | str s => rfl
  | arr items =>
    rw [attachTag, Tagging.tagsRoot]
    split
    · have hbind : bindMembers l [(typeKey, .str tag), (valuesKey, .arr items)]
          = .ok [(valuesKey, .arr items)] := by
        have hkeys : typeKey ∉ Json.keys [(valuesKey, .arr items)] := by
          simpa [Json.keys] using typeKey_ne_valuesKey
        rw [bindMembers_cons_typeKey]
        refine bindMembers_of_forall hkeys fun m hm => ?_
        rw [List.mem_singleton.1 hm]
        exact bindTree_of_untagged hj
      exact bindTree_tagged rfl hresolve hbind
    · exact bindTree_of_untagged hj
  | obj members =>
    rw [attachTag, Tagging.tagsRoot]
    split
    · -- the value has no tag, so the new one stands in front of all its members
      have hmembers := untagged_obj.1 hj
      have hnodup : (Json.keys ((typeKey, .str tag) :: members)).Nodup :=
        List.nodup_cons.2 ⟨hmembers.1, (Json.keysDistinct_obj.1 hkeys).1⟩
      have hbind : bindMembers l ((typeKey, .str tag) :: members) = .ok members := by
        rw [bindMembers_cons_typeKey]
        exact bindMembers_of_forall hmembers.1 fun m hm => bindTree_of_untagged (hmembers.2 m hm)
      rw [Json.ofMembers_of_nodup hnodup,
        bindTree_tagged (by rw [Json.lookup, if_pos rfl]) hresolve hbind]
      rw [Json.get?] at hvalues
      rw [hvalues, Option.getD_none]
    · exact bindTree_of_untagged hj

/-! ## Writing and reading -/

namespace Serializer

/-- The document that is written for the value `j` of a type. -/
def written (s : Serializer C) (l : AllowList C) (c : C.Code) (j : Json) : Json :=
  attachTag s.settings.tagging (l.describe (.of c)).identity j

/-- What is written is the text of that document. -/
theorem result_serializeTagged {s : Serializer C} {c : C.Code} {v : C.Value c} {j : Json}
    (hactive : s.active = some l) (hencode : C.encode c v = .ok j) :
    (s.serializeTagged c v).result = .ok (s.written l c j).write := by
  simp only [serializeTagged, hactive, hencode]
  rfl

/-- **Reading undoes tagged writing.**  Take two serializers with one allow-list, whatever they tag,
and a type that the tag for it leads back to.  If a value with distinct keys and without tags of its
own is written by the first, the second decodes from the text what was encoded, as this type in any
case, and as the type that the payload names exactly if the root was tagged.  The document that is
written has to be legible, which is what the format asks of a document that is to be read back, and
nested no deeper than the second serializer and the format allow. -/
theorem deserialize_of_serializeTagged {w r : Serializer C} {c : C.Code} {v : C.Value c} {j : Json}
    {text : Text} (hw : w.active = some l) (hr : r.active = some l)
    (hresolve : l.resolve (TypeName.tagKey (l.describe (.of c)).identity) = .ok d)
    (hcode : d.code = c) (hencode : C.encode c v = .ok j) (hkeys : j.KeysDistinct)
    (htags : Untagged j) (hvalues : j.get? valuesKey = none)
    (htext : (w.serializeTagged c v).result = .ok text)
    (hdepth : ∀ limit, r.settings.maxDepth = some limit → (w.written l c j).depth ≤ limit)
    (hroom : (w.written l c j).depth ≤ Json.maxRoom) (hback : (w.written l c j).ReadsBack) :
    (r.deserialize c text).result = decode c j ∧
      (w.settings.tagging.tagsRoot j = true →
        (r.deserializeBound text).result = (decode d.code j).map (Bound.mk d)) ∧
      (w.settings.tagging.tagsRoot j = false →
        (r.deserializeBound text).result = .error (.payload .untagged)) := by
  obtain rfl : (w.written l c j).write = text := by
    rw [result_serializeTagged hw hencode] at htext
    exact Except.ok.inj htext
  have hread : r.readDocument (w.written l c j).write = .ok (w.written l c j) :=
    readDocument_write hback hroom hdepth
  -- what the reader would tag itself plays no part in what it takes out
  have hbind := bindTree_attachTag hresolve htags hkeys hvalues w.settings.tagging
  rw [result_deserialize hr hread, result_deserializeBound hr hread, written, hbind]
  refine ⟨?_, fun htagged => ?_, fun htagged => ?_⟩
  · cases w.settings.tagging.tagsRoot j with
    | false => rfl
    | true => exact if_pos hcode
  · rw [htagged]
    rfl
  · rw [htagged]
    rfl

end Serializer

namespace Sample

/-- An array with a number and an object in it. -/
def list : Json := .arr [.num (.int 7), .obj [(['a'], .null)]]

theorem readsBack_list : list.ReadsBack := by
  have ha : ['a'] ≠ Json.wrapMark := by decide
  simp [list, Json.readsBack_arr, Json.readsBack_obj, Json.readsBack_null, Json.readsBack_int,
    Json.keys, ha]

theorem untagged_list : Untagged list := by
  have ha : ['a'] ≠ typeKey := by decide
  simp [list, Untagged, Json.get?, Json.lookup, ha]

/-- The same array with a tag around it. -/
theorem readsBack_tagged_list : ((serializer .all).written allowList () list).ReadsBack := by
  have htype : typeKey ≠ Json.wrapMark := by decide
  show Json.ReadsBack (.obj [(typeKey, .str _), (valuesKey, list)])
  simp [Json.readsBack_obj, Json.keys, Json.readsBack_str, readsBack_list, typeKey_ne_valuesKey,
    htype]

end Sample

/-- An array that is written with a tag around it, and one that is written as it is.  The reader
would tag objects only. -/
theorem deserialize_of_serializeTagged_array :
    (∃ text, ((Sample.serializer .all).serializeTagged () Sample.list).result = .ok text ∧
      ((Sample.serializer .objects).deserialize () text).result = .ok Sample.list ∧
      ((Sample.serializer .objects).deserializeBound text).result
        = .ok ⟨Sample.descriptor, Sample.list⟩) ∧
    ∃ text, ((Sample.serializer .objects).serializeTagged () Sample.list).result = .ok text ∧
      ((Sample.serializer .objects).deserialize () text).result = .ok Sample.list ∧
      ((Sample.serializer .objects).deserializeBound text).result
        = .error (.payload .untagged) := by
  have hall : (Sample.serializer .all).active = some Sample.allowList := rfl
  have hobjects : (Sample.serializer .objects).active = some Sample.allowList := rfl
  have hresolve : Sample.allowList.resolve
      (TypeName.tagKey (Sample.allowList.describe (.of ())).identity) = .ok Sample.descriptor := rfl
  have hencode : Sample.catalogue.encode () Sample.list = .ok Sample.list := rfl
  have hkeys : Sample.list.KeysDistinct := Json.keysDistinct_of_readsBack Sample.readsBack_list
  constructor
  · have htext := Serializer.result_serializeTagged hall hencode
    obtain ⟨hread, hbound, -⟩ :=
      Serializer.deserialize_of_serializeTagged hall hobjects hresolve rfl hencode hkeys
        Sample.untagged_list rfl htext (by decide) (by decide) Sample.readsBack_tagged_list
    exact ⟨_, htext, hread, hbound rfl⟩
  · have htext := Serializer.result_serializeTagged hobjects hencode
    obtain ⟨hread, -, hbound⟩ :=
      Serializer.deserialize_of_serializeTagged hobjects hobjects hresolve rfl hencode hkeys
        Sample.untagged_list rfl htext (by decide) (by decide) Sample.readsBack_list
    exact ⟨_, htext, hread, hbound rfl⟩

end Rampart.Payload

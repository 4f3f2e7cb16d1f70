import Mathlib
import Rampart.Proofs.Payload.RootTag

/-!
# Taking tags out is erasure

Tags are resolved while they are taken out, and what a tag names could have a bearing on what is
left of the document.  It has none: whatever the allow-list, a document whose tags can all be
resolved is left as the document with its tags erased.  What is erased has no tags, so a second
round changes nothing, and a document without tags is read as if tags were not handled.

* `erase_arr`, `erase_obj_of_content`, `erase_obj_of_kept` : erasure, case by case;
* `untagged_erase` : what is erased has no tags;
* `erase_of_bindTree`, `tag_of_bindTree` : what is left of a document, and the type of its root;
* `Serializer.deserialize_of_untagged` : documents without tags;
* `Serializer.takeTags_erases` : all of it for the running serializer.
-/

namespace Rampart.Json

/-- What is found under a key is a member. -/
theorem mem_of_lookup {key : Text} {members : List (Text × Json)} {v : Json}
    (h : lookup key members = some v) : (key, v) ∈ members := by
  induction members with
  | nil => cases h
  | cons m rest ih =>
    obtain ⟨k, w⟩ := m
    rw [lookup] at h
    split at h
    · rename_i hk
      cases h
      rw [hk]
      exact List.mem_cons_self
    · exact List.mem_cons_of_mem _ (ih h)

end Rampart.Json

namespace Rampart.Payload

variable {C : Catalogue} {l : AllowList C}

/-! ## Erasure -/

/-- Items are erased one by one. -/
theorem eraseItems_eq_map (items : List Json) : eraseItems items = items.map erase := by
  induction items with
  | nil => rw [eraseItems, List.map_nil]
  | cons j rest ih => rw [eraseItems, ih, List.map_cons]

/-- Members other than the tag are erased one by one, in their order. -/
theorem eraseMembers_eq_map (members : List (Text × Json)) :
    eraseMembers members = (Json.erase typeKey members).map fun m => (m.1, erase m.2) := by
  induction members with
  | nil => rw [eraseMembers, Json.erase, List.filter_nil, List.map_nil]
  | cons m rest ih =>
    obtain ⟨k, j⟩ := m
    rw [eraseMembers, ih, Json.erase, Json.erase]
    by_cases hk : k = typeKey
    · rw [if_pos hk, List.filter_cons_of_neg (by simpa using hk)]
    · rw [if_neg hk, List.filter_cons_of_pos (by simpa using hk), List.map_cons]

/-- What stands under another key than that of the tag is erased in its place. -/
theorem lookup_eraseMembers {key : Text} (hkey : key ≠ typeKey) (members : List (Text × Json)) :
    Json.lookup key (eraseMembers members) = (Json.lookup key members).map erase := by
  induction members with
  | nil => rw [eraseMembers, Json.lookup, Option.map_none]
  | cons m rest ih =>
    obtain ⟨k, j⟩ := m
    rw [eraseMembers, Json.lookup]
    by_cases hk : k = typeKey
    · have hne : k ≠ key := by
        rintro rfl
        exact hkey hk
      rw [if_pos hk, if_neg hne, ih]
    · rw [if_neg hk, Json.lookup]
      split
      · rfl
      · exact ih

theorem erase_arr (items : List Json) : erase (.arr items) = .arr (items.map erase) := by
  rw [erase, eraseItems_eq_map]

/-- A tagged object with content becomes its content. -/
theorem erase_obj_of_content {members : List (Text × Json)} {tag content : Json}
    (htag : Json.lookup typeKey members = some tag)
    (hcontent : Json.lookup valuesKey members = some content) :
    erase (.obj members) = erase content := by
  rw [erase, htag, lookup_eraseMembers typeKey_ne_valuesKey.symm, hcontent]
  rfl

/-- An object without a tag or without content keeps its other members. -/
theorem erase_obj_of_kept {members : List (Text × Json)}
    (h : Json.lookup typeKey members = none ∨ Json.lookup valuesKey members = none) :
    erase (.obj members) = .obj (eraseMembers members) := by
  rw [erase, lookup_eraseMembers typeKey_ne_valuesKey.symm]
  rcases h with h | h
  · rw [h]
  · rw [h]
    cases Json.lookup typeKey members <;> rfl

/-- Erased members do not have the key of the tag. -/
theorem typeKey_not_mem_eraseMembers (members : List (Text × Json)) :
    typeKey ∉ Json.keys (eraseMembers members) := by
  rw [eraseMembers_eq_map, Json.keys, List.map_map]
  exact Json.not_mem_keys_erase typeKey members

/-- What is erased has no tags. -/
theorem untagged_erase (j : Json) : Untagged (erase j) := by
  induction j using Json.induction with
  | arr items ih =>
    rw [erase_arr, untagged_arr]
    intro w hw
    obtain ⟨j, hj, rfl⟩ := List.mem_map.1 hw
    exact ih j hj
  | obj members ih =>
    have hkept : Untagged (.obj (eraseMembers members)) := by
      refine untagged_obj.2 ⟨typeKey_not_mem_eraseMembers members, fun n hn => ?_⟩
      rw [eraseMembers_eq_map] at hn
      obtain ⟨m, hm, rfl⟩ := List.mem_map.1 hn
      exact ih m (List.mem_of_mem_filter hm)
    cases htag : Json.lookup typeKey members with
    | none =>
      rw [erase_obj_of_kept (Or.inl htag)]
      exact hkept
    | some tag =>
      cases hcontent : Json.lookup valuesKey members with
      | none =>
        rw [erase_obj_of_kept (Or.inr hcontent)]
        exact hkept
      | some content =>
        rw [erase_obj_of_content htag hcontent]
        exact ih (valuesKey, content) (Json.mem_of_lookup hcontent)
  | _ => exact List.forall_mem_singleton.2 rfl

/-! ## What is left of a document -/

/-- Items whose tags are taken out are left erased, if each of them is. -/
theorem eraseItems_of_bindItems {items items' : List Json}
    (h : ∀ j ∈ items, ∀ w tag, bindTree l j = .ok (w, tag) → w = erase j)
    (hbind : bindItems l items = .ok items') : items' = eraseItems items := by
  induction items generalizing items' with
  | nil =>
    cases hbind
    rfl
  | cons j rest ih =>
    rw [List.forall_mem_cons] at h
    rw [bindItems_cons, bind_eq_ok_iff] at hbind
    obtain ⟨⟨w, tag⟩, hj, hbind⟩ := hbind
    rw [bind_eq_ok_iff] at hbind
    obtain ⟨rest', hrest, hbind⟩ := hbind
    cases hbind
    rw [eraseItems, h.1 w tag hj, ih h.2 hrest]

/-- Members whose tags are taken out are left erased, if each of them is. -/
theorem eraseMembers_of_bindMembers {members members' : List (Text × Json)}
    (h : ∀ m ∈ members, ∀ w tag, bindTree l m.2 = .ok (w, tag) → w = erase m.2)
    (hbind : bindMembers l members = .ok members') : members' = eraseMembers members := by
  induction members generalizing members' with
  | nil =>
    cases hbind
    rfl
  | cons m rest ih =>
    obtain ⟨k, j⟩ := m
    rw [List.forall_mem_cons] at h
    rw [eraseMembers]
    by_cases hk : k = typeKey
    · subst hk
      rw [bindMembers_cons_typeKey] at hbind
      rw [if_pos rfl]
      exact ih h.2 hbind
    · rw [bindMembers_cons_of_ne l hk, bind_eq_ok_iff] at hbind
      obtain ⟨⟨w, tag⟩, hj, hbind⟩ := hbind
      rw [bind_eq_ok_iff] at hbind
      obtain ⟨rest', hrest, hbind⟩ := hbind
      cases hbind
      rw [if_neg hk, h.1 w tag hj, ih h.2 hrest]

/-- A document whose tags can all be resolved is left as the document with its tags erased. -/
theorem erase_of_bindTree {j w : Json} {tag : Option (Descriptor C)}
    (h : bindTree l j = .ok (w, tag)) : w = erase j := by
  induction j using Json.induction generalizing w tag with
  | arr items ih =>
    rw [bindTree_arr, bind_eq_ok_iff] at h
    obtain ⟨items', hitems, h⟩ := h
    cases h
    rw [erase, eraseItems_of_bindItems (fun j hj w tag => ih j hj) hitems]
  | obj members ih =>
    have hmembers : ∀ {members'}, bindMembers l members = .ok members' →
        members' = eraseMembers members :=
      eraseMembers_of_bindMembers fun m hm w tag => ih m hm
    cases htag : Json.lookup typeKey members with
    | none =>
      rw [bindTree_obj_of_not_mem l htag, bind_eq_ok_iff] at h
      obtain ⟨rest, hrest, h⟩ := h
      cases h
      rw [erase_obj_of_kept (Or.inl htag), hmembers hrest]
    | some t =>
      rw [bindTree_obj_of_lookup l htag, bind_eq_ok_iff] at h
      obtain ⟨d, -, h⟩ := h
      rw [bind_eq_ok_iff] at h
      obtain ⟨rest, hrest, h⟩ := h
      cases h
      rw [hmembers hrest, lookup_eraseMembers typeKey_ne_valuesKey.symm]
      cases hcontent : Json.lookup valuesKey members with
      | none => rw [erase_obj_of_kept (Or.inr hcontent), Option.map_none, Option.getD_none]
      | some content => rw [erase_obj_of_content htag hcontent, Option.map_some, Option.getD_some]
  | _ =>
    cases h
    rfl

/-- A tag that is resolved is a text that names a trusted type. -/
theorem exists_of_resolveTag {tag : Json} {d : Descriptor C} (h : resolveTag l tag = .ok d) :
    ∃ name, tag = .str name ∧ l.resolve (TypeName.tagKey name) = .ok d := by
  cases tag with
  | str name =>
    refine ⟨name, rfl, ?_⟩
    rw [resolveTag] at h
    cases hresolve : l.resolve (TypeName.tagKey name) with
    | error r =>
      rw [hresolve] at h
      cases h
    | ok d' =>
      rw [hresolve] at h
      cases h
      rfl
  | _ => cases h

/-- A document without a tag at its root has no type of its own. -/
theorem tag_of_bindTree_untagged {j w : Json} {tag : Option (Descriptor C)}
    (hroot : j.get? typeKey = none) (h : bindTree l j = .ok (w, tag)) : tag = none := by
  cases j with
  | obj members =>
    rw [bindTree_obj_of_not_mem l hroot, bind_eq_ok_iff] at h
    obtain ⟨rest, -, h⟩ := h
    cases h
    rfl
  | arr items =>
    rw [bindTree_arr, bind_eq_ok_iff] at h
    obtain ⟨items', -, h⟩ := h
    cases h
    rfl
  | _ =>
    cases h
    rfl

/-- The type of a document with a tag at its root is the one that the tag names. -/
theorem tag_of_bindTree_tagged {j w t : Json} {tag : Option (Descriptor C)}
    (hroot : j.get? typeKey = some t) (h : bindTree l j = .ok (w, tag)) :
    ∃ name d, t = .str name ∧ l.resolve (TypeName.tagKey name) = .ok d ∧ tag = some d := by
  cases j with
  | obj members =>
    rw [bindTree_obj_of_lookup l hroot, bind_eq_ok_iff] at h
    obtain ⟨d, hd, h⟩ := h
    rw [bind_eq_ok_iff] at h
    obtain ⟨rest, -, h⟩ := h
    cases h
    obtain ⟨name, ht, hresolve⟩ := exists_of_resolveTag hd
    exact ⟨name, d, ht, hresolve, rfl⟩
  | _ => cases hroot

/-! ## Documents without tags -/

namespace Serializer

/-- Of the settings only the limit of nesting has a bearing on how a document is read. -/
theorem readDocument_congr {s s' : Serializer C}
    (h : s'.settings.maxDepth = s.settings.maxDepth) (payload : Text) :
    s'.readDocument payload = s.readDocument payload := by
  rw [readDocument, readDocument, h]

/-- No tag, nothing to tell: a document without tags passes as it is. -/
theorem takeTags_of_untagged (s : Serializer C) (l : AllowList C) {j : Json} (hj : Untagged j) :
    s.takeTags l j = Report.ofResult (.ok (j, none)) :=
  bindTreeWith_of_untagged hj

/-- A payload without tags is read the same, and with the same to tell, whether or not tags are
handled. -/
theorem deserialize_of_untagged {s s' : Serializer C} (hactive : s.active = some l)
    (hinactive : s'.active = none) (hdepth : s'.settings.maxDepth = s.settings.maxDepth)
    (c : C.Code) {payload : Text} (hpayload : ∀ j, Json.parse payload = .ok j → Untagged j) :
    s.deserialize c payload = s'.deserialize c payload := by
  rw [deserialize, deserialize, readDocument_congr hdepth, hactive, hinactive]
  cases hread : s.readDocument payload with
  | error f => rfl
  | ok j =>
    obtain ⟨-, hparse, -⟩ := readDocument_eq_ok_iff.1 hread
    show (s.takeTags l j >>= fun r => readAs c r.1 r.2) = Report.ofResult (decode c j)
    rw [takeTags_of_untagged s l (hpayload j hparse)]
    rfl

/-! ## Taking tags out -/

/-- **Taking tags out is erasure.**  Whatever the allow-list, what is left of a document whose tags
can all be resolved is the document with its tags erased, and its type is the one that the tag at
its root names, if there is one.  No tag is left in it, so a second round, with whatever allow-list,
changes nothing and tells nothing.  A payload without tags is read as if tags were not handled. -/
theorem takeTags_erases (s : Serializer C) (l : AllowList C) :
    (∀ v w tag, (s.takeTags l v).result = .ok (w, tag) →
      w = erase v ∧
      (v.get? typeKey = none → tag = none) ∧
      (∀ t, v.get? typeKey = some t →
        ∃ name d, t = .str name ∧ l.resolve (TypeName.tagKey name) = .ok d ∧ tag = some d) ∧
      Untagged w ∧
      ∀ (s' : Serializer C) l', s'.takeTags l' w = Report.ofResult (.ok (w, none))) ∧
    ∀ (s' : Serializer C) c payload, s.active = some l → s'.active = none →
      s'.settings.maxDepth = s.settings.maxDepth →
      (∀ j, Json.parse payload = .ok j → Untagged j) →
      s.deserialize c payload = s'.deserialize c payload := by
  constructor
  · intro v w tag h
    rw [result_takeTags] at h
    have herase : w = erase v := erase_of_bindTree h
    have huntagged : Untagged w := by
      rw [herase]
      exact untagged_erase v
    refine ⟨herase, fun hroot => tag_of_bindTree_untagged hroot h,
      fun t hroot => tag_of_bindTree_tagged hroot h, huntagged, ?_⟩
    intro s' l'
    exact takeTags_of_untagged s' l' huntagged
  · intro s' c payload hactive hinactive hdepth hpayload
    exact deserialize_of_untagged hactive hinactive hdepth c hpayload

/-- Two tags, one around the other, are taken out and the outer one tells the type; an empty list is
read the same without an allow-list. -/
theorem takeTags_erases_nested_and_none :
    (.arr [.obj []] = erase Sample.trusted ∧ Untagged (.arr [.obj []])) ∧
    (Sample.serializer .auto).deserialize () (Json.arr []).write
      = ({ allowList := none, settings := {} } : Serializer Sample.catalogue).deserialize ()
          (Json.arr []).write := by
  obtain ⟨htake, hread⟩ := takeTags_erases (Sample.serializer .auto) Sample.allowList
  obtain ⟨herase, -, -, huntagged, -⟩ :=
    htake Sample.trusted (.arr [.obj []]) (some Sample.descriptor) rfl
  have hback : (Json.arr []).ReadsBack :=
    Json.readsBack_arr.2 fun j hj => absurd hj List.not_mem_nil
  refine ⟨⟨herase, huntagged⟩, hread _ () _ rfl rfl rfl ?_⟩
  intro j hj
  rw [Json.parse_write hback (by decide)] at hj
  cases hj
  exact untagged_arr.2 fun j hj => absurd hj List.not_mem_nil

end Serializer

end Rampart.Payload

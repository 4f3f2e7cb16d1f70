import Mathlib
import Rampart.Proofs.Payload.Gate
import Rampart.Proofs.Type.Candidates

/-!
# Two ways of reading agree

A payload is read as the type that the caller asks for, or as the type that its root is tagged with.
Up to the value both ways take the same stages, so that the outcome of one tells that of the other.

* `Serializer.untag` : the stages that both ways share;
* `Serializer.result_deserialize_eq_bind`, `Serializer.result_deserializeBound_eq_bind` : each way
  is these stages and a decoding of its own;
* `Serializer.asked_and_tagged_reading_agree` : how the two outcomes hang together.
-/

namespace Rampart.Payload

variable {C : Catalogue}

/-- The document of a payload has a tag at its root. -/
def RootTagged (payload : Text) : Prop :=
  ∃ j v, Json.parse payload = .ok j ∧ j.get? typeKey = some v

/-- The failure that a decoder gave a value of another type than its own. -/
def IsUnexpected (f : Failure) : Prop :=
  ∃ declared, f = .payload (.unexpectedType declared)

/-! ## The tag of the root -/

/-- Taking the tags out tells the type of a value exactly if the value has a tag of its own. -/
theorem isSome_iff_of_bindTree {l : AllowList C} {j rest : Json} {tag : Option (Descriptor C)}
    (h : bindTree l j = .ok (rest, tag)) : tag.isSome ↔ ∃ v, j.get? typeKey = some v := by
  -- only an object has members, and so a tag
  have hscalar : ∀ k : Json, bindTree l j = .ok (k, none) → tag.isSome = false := by
    intro k hk
    rw [hk] at h
    cases h
    rfl
  cases j with
  | null => simp [Json.get?, hscalar .null rfl]
  | bool b => simp [Json.get?, hscalar (.bool b) rfl]
  | num n => simp [Json.get?, hscalar (.num n) rfl]
  | str t => simp [Json.get?, hscalar (.str t) rfl]
  | arr items =>
    rw [bindTree_arr, bind_eq_ok_iff] at h
    obtain ⟨items', -, h⟩ := h
    cases h
    simp [Json.get?]
  | obj members =>
    cases hlookup : Json.lookup typeKey members with
    | none =>
      rw [bindTree_obj_of_not_mem l hlookup, bind_eq_ok_iff] at h
      obtain ⟨members', -, h⟩ := h
      cases h
      simp [Json.get?, hlookup]
    | some v =>
      rw [bindTree_obj_of_lookup l hlookup, bind_eq_ok_iff] at h
      obtain ⟨d, -, h⟩ := h
      rw [bind_eq_ok_iff] at h
      obtain ⟨members', -, h⟩ := h
      cases h
      simp [Json.get?, hlookup]

namespace Serializer

variable {s : Serializer C} {l : AllowList C} {payload : Text}

/-! ## Stages -/

/-- The stages that both ways of reading share.  They give the document without its tags, and the
type that its root is tagged with. -/
def untag (s : Serializer C) (l : AllowList C) (payload : Text) :
    Except Failure (Json × Option (Descriptor C)) :=
  s.readDocument payload >>= bindTree l

/-- Reading as a given type is the shared stages and a decoding as that type. -/
theorem result_deserialize_eq_bind (hactive : s.active = some l) (c : C.Code) (payload : Text) :
    (s.deserialize c payload).result = s.untag l payload >>= fun r => decodeAs c r.1 r.2 := by
  rw [untag]
  cases hread : s.readDocument payload with
  | error f =>
    rw [deserialize, Report.result_bind, Report.result_ofResult, hread]
    rfl
  | ok j => exact result_deserialize hactive hread c

/-- Reading as the tagged type is the shared stages and a decoding as the type of the root. -/
theorem result_deserializeBound_eq_bind (hactive : s.active = some l) (payload : Text) :
    (s.deserializeBound payload).result = s.untag l payload >>= fun r => decodeBound r.1 r.2 := by
  rw [untag]
  cases hread : s.readDocument payload with
  | error f =>
    rw [deserializeBound, hactive]
    show (Report.ofResult (s.readDocument payload) >>= _).result = _
    rw [Report.result_bind, Report.result_ofResult, hread]
    rfl
  | ok j => exact result_deserializeBound hactive hread

/-- The shared stages tell a type exactly if the payload has a tag at its root. -/
theorem isSome_iff_of_untag {j : Json} {tag : Option (Descriptor C)}
    (h : s.untag l payload = .ok (j, tag)) : tag.isSome ↔ RootTagged payload := by
  rw [untag, bind_eq_ok_iff] at h
  obtain ⟨document, hread, hbind⟩ := h
  have hparse : Json.parse payload = .ok document := (readDocument_eq_ok_iff.1 hread).2.1
  rw [isSome_iff_of_bindTree hbind]
  constructor
  · rintro ⟨v, hv⟩
    exact ⟨document, v, hparse, hv⟩
  · rintro ⟨j', v, hparse', hv⟩
    rw [hparse] at hparse'
    cases hparse'
    exact ⟨v, hv⟩

/-! ## Failures -/

/-- The shared stages have no failure about the type that a decoder gives: they fail before
anything is decoded. -/
theorem not_isUnexpected_of_untag {f : Failure} (h : s.untag l payload = .error f) :
    ¬ IsUnexpected f := by
  rintro ⟨declared, rfl⟩
  rw [untag, bind_eq_error_iff] at h
  rcases h with hread | ⟨j, hread, hbind⟩
  · rcases failure_of_readDocument hread with hf | ⟨e, hf⟩ | ⟨depth, limit, hf⟩
    · cases hf
    · cases hf
    · cases hf
  · have hj : j.KeysDistinct :=
      Json.keysDistinct_of_parse (readDocument_eq_ok_iff.1 hread).2.1
    -- a tag is unknown or no text
    obtain ⟨v, hv⟩ := failure_of_bindTree hj hbind
    cases v <;> cases hv

/-- Reading as a given type has no failure about the type that a decoder gives. -/
theorem not_isUnexpected_of_deserialize (hactive : s.active = some l) {c : C.Code} {f : Failure}
    (h : (s.deserialize c payload).result = .error f) : ¬ IsUnexpected f := by
  rw [result_deserialize_eq_bind hactive, bind_eq_error_iff] at h
  rcases h with huntag | ⟨r, -, hdecode⟩
  · exact not_isUnexpected_of_untag huntag
  · rintro ⟨declared, rfl⟩
    rcases failure_of_decodeAs hdecode with ⟨m, hf⟩ | ⟨declared', requested, hf⟩
    · cases hf
    · cases hf

/-- Reading as the tagged type has no failure about the type that a decoder gives. -/
theorem not_isUnexpected_of_deserializeBound (hactive : s.active = some l) {f : Failure}
    (h : (s.deserializeBound payload).result = .error f) : ¬ IsUnexpected f := by
  rw [result_deserializeBound_eq_bind hactive, bind_eq_error_iff] at h
  rcases h with huntag | ⟨r, -, hdecode⟩
  · exact not_isUnexpected_of_untag huntag
  · rintro ⟨declared, rfl⟩
    rcases failure_of_decodeBound hdecode with hf | ⟨m, hf⟩
    · cases hf
    · cases hf

/-! ## Agreement -/

/-- A payload that is read as the tagged type has a tag at its root that names this type, and the
value is decoded from what is left without the tags. -/
theorem exists_untag_of_deserializeBound (hactive : s.active = some l) {b : Bound C}
    (h : (s.deserializeBound payload).result = .ok b) :
    ∃ j, s.untag l payload = .ok (j, some b.descriptor) ∧
      decode b.descriptor.code j = .ok b.value := by
  rw [result_deserializeBound_eq_bind hactive, bind_eq_ok_iff] at h
  obtain ⟨⟨j, tag⟩, huntag, hdecode⟩ := h
  cases tag with
  | none => cases hdecode
  | some d =>
    rw [decodeBound, map_eq_ok_iff] at hdecode
    obtain ⟨v, hv, rfl⟩ := hdecode
    exact ⟨j, huntag, hv⟩

/-- What is read as the tagged type is read as that type when it is asked for. -/
theorem deserialize_of_deserializeBound (hactive : s.active = some l) {b : Bound C}
    (h : (s.deserializeBound payload).result = .ok b) :
    (s.deserialize b.descriptor.code payload).result = .ok b.value ∧ RootTagged payload := by
  obtain ⟨j, huntag, hdecode⟩ := exists_untag_of_deserializeBound hactive h
  refine ⟨?_, (isSome_iff_of_untag huntag).1 rfl⟩
  rw [result_deserialize_eq_bind hactive, huntag]
  show decodeAs b.descriptor.code j (some b.descriptor) = .ok b.value
  rw [decodeAs, if_pos rfl, hdecode]

/-- What is read as a given type from a payload with a tag at its root is read as the tagged
type. -/
theorem deserializeBound_of_deserialize (hactive : s.active = some l) {c : C.Code} {v : C.Value c}
    (h : (s.deserialize c payload).result = .ok v) (htagged : RootTagged payload) :
    ∃ b, (s.deserializeBound payload).result = .ok b ∧ b.descriptor.code = c := by
  rw [result_deserialize_eq_bind hactive, bind_eq_ok_iff] at h
  obtain ⟨⟨j, tag⟩, huntag, hdecode⟩ := h
  obtain ⟨d, rfl⟩ := Option.isSome_iff_exists.1 ((isSome_iff_of_untag huntag).2 htagged)
  rw [decodeAs] at hdecode
  split at hdecode
  · rename_i hcode
    subst hcode
    refine ⟨⟨d, v⟩, ?_, rfl⟩
    rw [result_deserializeBound_eq_bind hactive, huntag]
    show (decode d.code j).map (Bound.mk d) = .ok ⟨d, v⟩
    rw [hdecode]
    rfl
  · cases hdecode

/-- What is read as the tagged type is not read as another one, whether or not it would fit. -/
theorem deserialize_of_code_ne (hactive : s.active = some l) {b : Bound C}
    (h : (s.deserializeBound payload).result = .ok b) {c : C.Code} (hne : b.descriptor.code ≠ c) :
    (s.deserialize c payload).result
      = .error (.payload (.otherType b.descriptor.identity (C.fullName c))) := by
  obtain ⟨j, huntag, -⟩ := exists_untag_of_deserializeBound hactive h
  rw [result_deserialize_eq_bind hactive, huntag]
  show decodeAs c j (some b.descriptor) = _
  rw [decodeAs, if_neg hne]

/-- A payload is refused before anything is decoded, and so as whatever type it is read. -/
theorem deserialize_of_refused (hactive : s.active = some l) {r : Refusal}
    (h : (s.deserializeBound payload).result = .error (.refused r)) (c : C.Code) :
    (s.deserialize c payload).result = .error (.refused r) := by
  rw [result_deserializeBound_eq_bind hactive, bind_eq_error_iff] at h
  rw [result_deserialize_eq_bind hactive, bind_eq_error_iff]
  rcases h with huntag | ⟨r', -, hdecode⟩
  · exact Or.inl huntag
  · rcases failure_of_decodeBound hdecode with hf | ⟨m, hf⟩
    · cases hf
    · cases hf

/-- **Agreement.**  Where tags are handled, a payload with a tag at its root is read as a type that
is asked for exactly if it is read as the tagged type and this is the one, and both give one value.
If the tag names another type, nothing is read, even where the value would fit.  A refusal is the
same both ways, and no decoder gives a value of another type than its own. -/
theorem asked_and_tagged_reading_agree (hactive : s.active.isSome) (payload : Text) (c : C.Code) :
    ((∃ v, (s.deserialize c payload).result = .ok v ∧ RootTagged payload) ↔
      ∃ b, (s.deserializeBound payload).result = .ok b ∧ b.descriptor.code = c) ∧
    (∀ v b, (s.deserialize c payload).result = .ok v →
      (s.deserializeBound payload).result = .ok b → b.downcast c = some v) ∧
    (∀ b, (s.deserializeBound payload).result = .ok b → b.descriptor.code ≠ c →
      (s.deserialize c payload).result
        = .error (.payload (.otherType b.descriptor.identity (C.fullName c)))) ∧
    (∀ r, (s.deserializeBound payload).result = .error (.refused r) →
      (s.deserialize c payload).result = .error (.refused r)) ∧
    (∀ f, (s.deserialize c payload).result = .error f → ¬ IsUnexpected f) ∧
    ∀ f, (s.deserializeBound payload).result = .error f → ¬ IsUnexpected f := by
  obtain ⟨l, hactive⟩ := Option.isSome_iff_exists.1 hactive
  refine ⟨⟨?_, ?_⟩, ?_, ?_, ?_, ?_, ?_⟩
  · rintro ⟨v, hv, htagged⟩
    exact deserializeBound_of_deserialize hactive hv htagged
  · rintro ⟨b, hb, rfl⟩
    exact ⟨b.value, deserialize_of_deserializeBound hactive hb⟩
  · intro v b hv hb
    by_cases hcode : b.descriptor.code = c
    · subst hcode
      have hvalue := (deserialize_of_deserializeBound hactive hb).1
      rw [hv] at hvalue
      cases hvalue
      exact Bound.downcast_code b
    · rw [deserialize_of_code_ne hactive hb hcode] at hv
      cases hv
  · intro b hb hne
    exact deserialize_of_code_ne hactive hb hne
  · intro r hr
    exact deserialize_of_refused hactive hr c
  · intro f hf
    exact not_isUnexpected_of_deserialize hactive hf
  · intro f hf
    exact not_isUnexpected_of_deserializeBound hactive hf

end Serializer

namespace Sample

/-- A serializer that trusts two types under one name, of which the later counts. -/
def dtoSerializer : Serializer AllowList.Sample.catalogue :=
  { allowList := some AllowList.Sample.dtos, settings := { tagging := .auto } }

/-- An object that is tagged with that name. -/
def taggedDto : Json := .obj [(typeKey, .str "Dto,Contoso".toList), (['a'], .null)]

theorem readDocument_taggedDto : dtoSerializer.readDocument taggedDto.write = .ok taggedDto := by
  have htype : typeKey ≠ Json.wrapMark := by decide
  have hne : typeKey ≠ ['a'] := by decide
  have hback : taggedDto.ReadsBack := by
    simp [taggedDto, Json.readsBack_obj, Json.readsBack_str, Json.readsBack_null, Json.keys, htype,
      hne]
  exact Serializer.readDocument_write hback (by decide) (by decide)

end Sample

/-- Of two types under one name, a payload with that name is read as the later one, and is not read
as the earlier one although its values are all documents. -/
theorem asked_and_tagged_reading_agree_one_name :
    Sample.dtoSerializer.active.isSome ∧
      (∃ v, (Sample.dtoSerializer.deserialize .triple Sample.taggedDto.write).result = .ok v ∧
        RootTagged Sample.taggedDto.write) ∧
      (Sample.dtoSerializer.deserialize .pair Sample.taggedDto.write).result
        = .error (.payload (.otherType "Dto, Contoso".toList
            "(i64, alloc::string::String)".toList)) := by
  have hactive : Sample.dtoSerializer.active.isSome := rfl
  have hbind : bindTree AllowList.Sample.dtos Sample.taggedDto
      = .ok (.obj [(['a'], .null)], some (AllowList.Sample.dto .triple)) := rfl
  have hbound : (Sample.dtoSerializer.deserializeBound Sample.taggedDto.write).result
      = .ok ⟨AllowList.Sample.dto .triple, .obj [(['a'], .null)]⟩ := by
    rw [Serializer.result_deserializeBound rfl Sample.readDocument_taggedDto, hbind]
    rfl
  have htriple := Serializer.asked_and_tagged_reading_agree hactive Sample.taggedDto.write .triple
  have hpair := Serializer.asked_and_tagged_reading_agree hactive Sample.taggedDto.write .pair
  refine ⟨hactive, htriple.1.2 ⟨_, hbound, rfl⟩, hpair.2.2.1 _ hbound ?_⟩
  intro h
  cases h

end Rampart.Payload

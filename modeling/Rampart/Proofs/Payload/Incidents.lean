import Mathlib
import Rampart.Proofs.Payload.Reading

/-!
# What a serializer hands to the audit log

Incidents are handed over in the middle of reading, at the tag that is not trusted, or before
anything is read.  Still the audit log is told exactly what the result says: reading stops at the
first failure, and no other failure is an incident.

* `Report.Accounts` : a report hands over what its result calls for, which sequences of steps keep;
* `bindTreeWith_of_closed` : what holds of looking up each tag, and is kept by sequences of steps,
  holds of taking all tags out;
* `Serializer.Reachable` : the serializers that can be made;
* `Serializer.incidents_of_reachable` : what they guarantee and what they hand over.
-/

namespace Rampart

/-- The incident that a failure to read or to write a payload calls for: a type that is not trusted,
or something insecure that was asked for. -/
def Failure.incident? : Failure → Option Audit.Incident
  | .refused (.unknownType identity name) => some (.typeRejected identity name)
  | .refused (.insecure details) => some (.insecureConfiguration details)
  | _ => none

/-- Whether a failure is a payload that is blank or is not as it should be. -/
def Failure.isPlain : Failure → Bool
  | .payload _ | .refused .blankPayload => true
  | _ => false

/-- Plain failures call for no incident. -/
theorem Failure.incident?_of_isPlain {f : Failure} (h : f.isPlain = true) :
    f.incident? = none := by
  unfold Failure.isPlain at h
  split at h
  · rfl
  · rfl
  · cases h

/-- The failures that reading a payload can have: it is blank or not as it should be, or it names a
type that is not trusted. -/
def Failure.IsOfReading (f : Failure) : Prop :=
  f.isPlain = true ∨ ∃ identity name, f = .refused (.unknownType identity name)

/-! ## Reports that account for their results -/

namespace Report

variable {α β : Type} {audited : Bool}

/-- The incidents that a result calls for. -/
def due : Except Failure α → List Audit.Incident
  | .ok _ => []
  | .error f => f.incident?.toList

/-- A report accounts for its result: where there is an audit log, it is handed what the result
calls for and nothing else, and a failure is one that reading can have. -/
structure Accounts (audited : Bool) (r : Report α) : Prop where
  incidents : r.incidents = if audited then due r.result else []
  failure : ∀ f, r.result = .error f → f.IsOfReading

/-- Plain failures need not be told. -/
theorem accounts_ofResult {x : Except Failure α} (h : ∀ f, x = .error f → f.isPlain = true) :
    (ofResult x).Accounts audited := by
  have hdue : due x = [] := by
    cases x with
    | ok a => rfl
    | error f => rw [due, Failure.incident?_of_isPlain (h f rfl), Option.toList_none]
  refine ⟨?_, fun f hf => Or.inl (h f hf)⟩
  rw [result_ofResult, hdue, ite_self]
  rfl

theorem accounts_pure (a : α) : (pure a : Report α).Accounts audited := by
  refine accounts_ofResult fun f h => ?_
  cases h

theorem accounts_note (r : Record) : (note r).Accounts audited := by
  refine ⟨(ite_self _).symm, fun f h => ?_⟩
  cases h

/-- Of two steps that account for their results, the first has nothing to tell if the second is
reached.  So the sequence accounts for its result. -/
theorem Accounts.bind {r : Report α} {f : α → Report β} (hr : r.Accounts audited)
    (hf : ∀ a, (f a).Accounts audited) : (r >>= f).Accounts audited := by
  have hbind : r >>= f = r.andThen f := rfl
  rw [hbind, andThen]
  cases hresult : r.result with
  | error e =>
    refine ⟨?_, fun e' he' => ?_⟩
    · show r.incidents = if audited then due (.error e : Except Failure α) else []
      rw [hr.incidents, hresult]
    · cases he'
      exact hr.failure e hresult
  | ok a =>
    refine ⟨?_, (hf a).failure⟩
    show r.incidents ++ (f a).incidents = if audited then due (f a).result else []
    rw [hr.incidents, hresult, (hf a).incidents, due, ite_self, List.nil_append]

end Report

namespace Payload

variable {C : Catalogue}

/-! ## Taking tags out -/

section

variable {m : Type → Type} [Monad m] {P : {α : Type} → m α → Prop}
  {resolve : Json → m (Descriptor C)}

theorem bindItemsWith_of_closed (hpure : ∀ {α : Type} (a : α), P (pure a : m α))
    (hbind : ∀ {α β : Type} {x : m α} {f : α → m β}, P x → (∀ a, P (f a)) → P (x >>= f))
    {items : List Json} (h : ∀ j ∈ items, P (bindTreeWith resolve j)) :
    P (bindItemsWith resolve items) := by
  induction items with
  | nil =>
    rw [bindItemsWith]
    exact hpure []
  | cons j rest ih =>
    rw [List.forall_mem_cons] at h
    rw [bindItemsWith]
    exact hbind h.1 fun r => hbind (ih h.2) fun rest => hpure _

theorem bindMembersWith_of_closed (hpure : ∀ {α : Type} (a : α), P (pure a : m α))
    (hbind : ∀ {α β : Type} {x : m α} {f : α → m β}, P x → (∀ a, P (f a)) → P (x >>= f))
    {members : List (Text × Json)} (h : ∀ m ∈ members, P (bindTreeWith resolve m.2)) :
    P (bindMembersWith resolve members) := by
  induction members with
  | nil =>
    rw [bindMembersWith]
    exact hpure []
  | cons m rest ih =>
    obtain ⟨k, j⟩ := m
    rw [List.forall_mem_cons] at h
    rw [bindMembersWith]
    split
    · exact ih h.2
    · exact hbind h.1 fun r => hbind (ih h.2) fun rest => hpure _

/-- What holds of looking up each tag, and is kept by sequences of steps, holds of taking all tags
out. -/
theorem bindTreeWith_of_closed (hpure : ∀ {α : Type} (a : α), P (pure a : m α))
    (hbind : ∀ {α β : Type} {x : m α} {f : α → m β}, P x → (∀ a, P (f a)) → P (x >>= f))
    (hresolve : ∀ v, P (resolve v)) (j : Json) : P (bindTreeWith resolve j) := by
  induction j using Json.induction with
  | null => exact hpure _
  | bool b => exact hpure _
  | num n => exact hpure _
  | str t => exact hpure _
  | arr items ih =>
    rw [bindTreeWith]
    exact hbind (bindItemsWith_of_closed hpure hbind ih) fun items => hpure _
  | obj members ih =>
    have hmembers := bindMembersWith_of_closed hpure hbind ih
    rw [bindTreeWith]
    cases Json.lookup typeKey members with
    | none => exact hbind hmembers fun rest => hpure _
    | some tag =>
      refine hbind (hresolve tag) fun d => hbind hmembers fun rest => ?_
      cases Json.lookup valuesKey rest with
      | none => exact hpure _
      | some content => exact hpure _

end

namespace Serializer

/-! ## Reading -/

variable {audited : Bool}

/-- A fault of the payload as such calls for nothing. -/
theorem accounts_payload {α : Type} (f : PayloadFault) :
    (Report.ofResult (.error (.payload f)) : Report α).Accounts audited := by
  refine Report.accounts_ofResult fun f' h => ?_
  cases h
  rfl

/-- A tag that is not trusted is told where it is met. -/
theorem accounts_resolveTag (s : Serializer C) (l : AllowList C) (v : Json) :
    (s.resolveTag l v).Accounts s.audited := by
  cases v with
  | str tag =>
    rw [resolveTag, AllowList.resolve]
    cases l.find? (TypeName.tagKey tag) with
    | some d => exact Report.accounts_pure d
    | none =>
      refine ⟨rfl, fun f h => ?_⟩
      cases h
      exact Or.inr ⟨_, _, rfl⟩
  | null => exact accounts_payload _
  | bool b => exact accounts_payload _
  | num n => exact accounts_payload _
  | arr items => exact accounts_payload _
  | obj members => exact accounts_payload _

/-- However many tags are not trusted, one is told: the one that reading stops at. -/
theorem accounts_takeTags (s : Serializer C) (l : AllowList C) (j : Json) :
    (s.takeTags l j).Accounts s.audited :=
  bindTreeWith_of_closed (fun a => Report.accounts_pure a) (fun hr hf => hr.bind hf)
    (accounts_resolveTag s l) j

/-- A document is not read because the payload is blank or not as it should be. -/
theorem isPlain_of_readDocument {s : Serializer C} {payload : Text} {f : Failure}
    (h : s.readDocument payload = .error f) : f.isPlain = true := by
  rcases failure_of_readDocument h with rfl | ⟨e, rfl⟩ | ⟨depth, limit, rfl⟩
  · rfl
  · rfl
  · rfl

theorem isPlain_of_decode {c : C.Code} {j : Json} {f : Failure}
    (h : decode c j = .error f) : f.isPlain = true := by
  obtain ⟨m, rfl⟩ := failure_of_decode h
  rfl

theorem accounts_readDocument (s : Serializer C) (payload : Text) :
    (Report.ofResult (s.readDocument payload)).Accounts audited :=
  Report.accounts_ofResult fun _ h => isPlain_of_readDocument h

theorem accounts_decode (c : C.Code) (j : Json) :
    (Report.ofResult (decode c j)).Accounts audited :=
  Report.accounts_ofResult fun _ h => isPlain_of_decode h

theorem accounts_readBound (j : Json) (tag : Option (Descriptor C)) :
    (readBound j tag).Accounts audited := by
  cases tag with
  | none => exact accounts_payload _
  | some d =>
    exact (accounts_decode d.code j).bind fun v =>
      (Report.accounts_note _).bind fun _ => Report.accounts_pure _

theorem accounts_readAs (c : C.Code) (j : Json) (tag : Option (Descriptor C)) :
    (readAs c j tag).Accounts audited := by
  cases tag with
  | none => exact accounts_decode c j
  | some d =>
    rw [readAs]
    split
    · refine (accounts_readBound j (some d)).bind fun b => ?_
      cases b.downcast c with
      | some v => exact Report.accounts_pure v
      | none => exact accounts_payload _
    · exact accounts_payload _

/-- Reading as a given type accounts for its result. -/
theorem accounts_deserialize (s : Serializer C) (c : C.Code) (payload : Text) :
    (s.deserialize c payload).Accounts s.audited := by
  refine (accounts_readDocument s payload).bind fun j => ?_
  cases s.active with
  | none => exact accounts_decode c j
  | some l => exact (accounts_takeTags s l j).bind fun r => accounts_readAs c r.1 r.2

/-- Where tags are handled, reading as the tagged type accounts for its result. -/
theorem accounts_deserializeBound {s : Serializer C} {l : AllowList C} (hactive : s.active = some l)
    (payload : Text) : (s.deserializeBound payload).Accounts s.audited := by
  rw [deserializeBound, hactive]
  exact (accounts_readDocument s payload).bind fun j =>
    (accounts_takeTags s l j).bind fun r => accounts_readBound r.1 r.2

/-- Where tags are handled, writing accounts for its result. -/
theorem accounts_serializeTagged {s : Serializer C} {l : AllowList C} (hactive : s.active = some l)
    (c : C.Code) (v : C.Value c) : (s.serializeTagged c v).Accounts s.audited := by
  rw [serializeTagged, hactive]
  cases C.encode c v with
  | error m => exact accounts_payload (.mismatch m)
  | ok j => exact Report.accounts_pure _

/-! ## Asking for something insecure -/

/-- The result is that something insecure was asked for. -/
def IsInsecure {α : Type} (r : Except Failure α) : Prop :=
  ∃ details, r = .error (.refused (.insecure details))

/-- What accounts for its result as reading does was not refused as insecure. -/
theorem not_isInsecure_of_accounts {α : Type} {r : Report α} (h : r.Accounts audited) :
    ¬ IsInsecure r.result := by
  rintro ⟨details, hr⟩
  rcases h.failure _ hr with hplain | ⟨identity, name, hname⟩
  · cases hplain
  · cases hname

/-- Without an allow-list in use, reading as the tagged type is insecure, whatever the payload. -/
theorem isInsecure_deserializeBound_iff (s : Serializer C) (payload : Text) :
    IsInsecure (s.deserializeBound payload).result ↔ s.active = none := by
  cases hactive : s.active with
  | none =>
    rw [deserializeBound, hactive]
    exact iff_of_true ⟨_, rfl⟩ rfl
  | some l =>
    exact iff_of_false (not_isInsecure_of_accounts (accounts_deserializeBound hactive payload))
      (Option.some_ne_none l)

/-- Without an allow-list in use, writing is insecure, whatever the value. -/
theorem isInsecure_serializeTagged_iff (s : Serializer C) (c : C.Code) (v : C.Value c) :
    IsInsecure (s.serializeTagged c v).result ↔ s.active = none := by
  cases hactive : s.active with
  | none =>
    rw [serializeTagged, hactive]
    exact iff_of_true ⟨_, rfl⟩ rfl
  | some l =>
    exact iff_of_false (not_isInsecure_of_accounts (accounts_serializeTagged hactive c v))
      (Option.some_ne_none l)

variable {s : Serializer C} {settings : Settings}

/-- Settings are taken over unless they ask for tags without an allow-list. -/
theorem result_withSettings (s : Serializer C) (settings : Settings) :
    (settings.tagging ≠ .none ∧ s.allowList = none →
      ∃ details, (s.withSettings settings).result = .error (.refused (.insecure details))) ∧
    (¬ (settings.tagging ≠ .none ∧ s.allowList = none) →
      (s.withSettings settings).result = .ok { s with settings }) := by
  have hcond : (settings.tagging.isEnabled && s.allowList.isNone) = true ↔
      settings.tagging ≠ .none ∧ s.allowList = none := by
    rw [Bool.and_eq_true, Tagging.isEnabled, bne_iff_ne, Option.isNone_iff_eq_none]
  rw [withSettings, ← hcond]
  constructor
  · intro h
    rw [if_pos h]
    exact ⟨_, rfl⟩
  · intro h
    rw [if_neg h]

/-- Settings are refused exactly if they ask for tags without an allow-list. -/
theorem withSettings_fails_iff (s : Serializer C) (settings : Settings) :
    (∃ f, (s.withSettings settings).result = .error f) ↔
      settings.tagging ≠ .none ∧ s.allowList = none := by
  obtain ⟨hrefused, htaken⟩ := result_withSettings s settings
  constructor
  · rintro ⟨f, hf⟩
    by_contra h
    rw [htaken h] at hf
    cases hf
  · intro h
    obtain ⟨details, hdetails⟩ := hrefused h
    exact ⟨_, hdetails⟩

theorem eq_of_withSettings {s' : Serializer C}
    (h : (s.withSettings settings).result = .ok s') :
    s' = { s with settings } ∧ (settings.tagging ≠ .none → s.allowList.isSome = true) := by
  obtain ⟨hrefused, htaken⟩ := result_withSettings s settings
  have hcond : ¬ (settings.tagging ≠ .none ∧ s.allowList = none) := by
    intro hcond
    obtain ⟨details, hdetails⟩ := hrefused hcond
    rw [h] at hdetails
    cases hdetails
  rw [htaken hcond, Except.ok.injEq] at h
  refine ⟨h.symm, fun htagging => Option.isSome_iff_ne_none.2 fun hnone => ?_⟩
  exact hcond ⟨htagging, hnone⟩

/-! ## Serializers that can be made -/

/-- A serializer that is made with or without an allow-list, or from its configuration, and then
given an audit log or other settings any number of times. -/
inductive Reachable : Serializer C → Prop
  | new (allowList : Option (AllowList C)) : Reachable (.new allowList)
  | ofSettings {settings : Settings} {allowList : Option (AllowList C)} {audited : Bool}
      {s : Serializer C} (h : (ofSettings settings allowList audited).result = .ok s) : Reachable s
  | withAudit {s : Serializer C} (hs : Reachable s) : Reachable s.withAudit
  | withSettings {s s' : Serializer C} {settings : Settings} (hs : Reachable s)
      (h : (s.withSettings settings).result = .ok s') : Reachable s'

/-- Tags are handled only with an allow-list. -/
theorem Reachable.allowList_isSome (hs : Reachable s) :
    s.settings.tagging ≠ .none → s.allowList.isSome = true := by
  induction hs with
  | new allowList =>
    intro htagging
    cases allowList with
    | none => exact absurd rfl htagging
    | some l => rfl
  | ofSettings h =>
    obtain ⟨rfl, hsome⟩ := eq_of_withSettings h
    exact hsome
  | withAudit hs ih => exact ih
  | withSettings hs h ih =>
    obtain ⟨rfl, hsome⟩ := eq_of_withSettings h
    exact hsome

/-- So tags are handled unless the settings say otherwise. -/
theorem Reachable.active_eq_none_iff (hs : Reachable s) :
    s.active = none ↔ s.settings.tagging = .none := by
  rw [active, Tagging.isEnabled]
  by_cases htagging : s.settings.tagging = .none
  · rw [htagging]
    exact iff_of_true rfl rfl
  · have hsome : s.allowList ≠ none := Option.isSome_iff_ne_none.1 (hs.allowList_isSome htagging)
    rw [if_pos (bne_iff_ne.2 htagging)]
    exact iff_of_false hsome htagging

/-! ## What is handed over -/

/-- A refusal as insecure is told. -/
theorem incidents_insecure {α : Type} (s : Serializer C) (details : Text) :
    (s.insecure details : Report α).incidents
      = if s.audited then Report.due (s.insecure details : Report α).result else [] := rfl

theorem incidents_withSettings (s : Serializer C) (settings : Settings) :
    (s.withSettings settings).incidents
      = if s.audited then Report.due (s.withSettings settings).result else [] := by
  rw [withSettings]
  split
  · exact incidents_insecure s _
  · exact (ite_self _).symm

theorem incidents_deserializeBound (s : Serializer C) (payload : Text) :
    (s.deserializeBound payload).incidents
      = if s.audited then Report.due (s.deserializeBound payload).result else [] := by
  cases hactive : s.active with
  | none =>
    rw [deserializeBound, hactive]
    exact incidents_insecure s _
  | some l => exact (accounts_deserializeBound hactive payload).incidents

theorem incidents_serializeTagged (s : Serializer C) (c : C.Code) (v : C.Value c) :
    (s.serializeTagged c v).incidents
      = if s.audited then Report.due (s.serializeTagged c v).result else [] := by
  cases hactive : s.active with
  | none =>
    rw [serializeTagged, hactive]
    exact incidents_insecure s _
  | some l => exact (accounts_serializeTagged hactive c v).incidents

/-- **The audit log is told what the result says.**  A serializer that can be made handles tags only
with an allow-list, and settings that would have it otherwise are refused, as are no others.  With
an audit log attached, every call hands over exactly what its result calls for: a type that is not
trusted, or something insecure, and nothing on any other result.  Where tags are not handled,
reading as the tagged type and writing are insecure, and only there. -/
theorem incidents_of_reachable :
    (∀ s : Serializer C, Reachable s → s.settings.tagging ≠ .none → s.allowList.isSome = true) ∧
    (∀ (s : Serializer C) (settings : Settings),
      (∃ f, (s.withSettings settings).result = .error f) ↔
        settings.tagging ≠ .none ∧ s.allowList = none) ∧
    (∀ (settings : Settings) (allowList : Option (AllowList C)) (audited : Bool),
      (∃ f, (ofSettings settings allowList audited).result = .error f) ↔
        settings.tagging ≠ .none ∧ allowList = none) ∧
    (∀ (settings : Settings) (allowList : Option (AllowList C)),
      (ofSettings settings allowList true).incidents
        = Report.due (ofSettings settings allowList true).result) ∧
    ∀ s : Serializer C, Reachable s → s.audited = true →
      (∀ settings, (s.withSettings settings).incidents
        = Report.due (s.withSettings settings).result) ∧
      (∀ c payload, (s.deserialize c payload).incidents
        = Report.due (s.deserialize c payload).result) ∧
      (∀ payload, (s.deserializeBound payload).incidents
        = Report.due (s.deserializeBound payload).result) ∧
      (∀ c v, (s.serializeTagged c v).incidents = Report.due (s.serializeTagged c v).result) ∧
      (∀ payload, IsInsecure (s.deserializeBound payload).result ↔ s.settings.tagging = .none) ∧
      (∀ c v, IsInsecure (s.serializeTagged c v).result ↔ s.settings.tagging = .none) := by
  refine ⟨fun s hs => hs.allowList_isSome, withSettings_fails_iff,
    fun settings allowList audited => withSettings_fails_iff _ settings,
    fun settings allowList => ?_, fun s hs haudited => ⟨fun settings => ?_, fun c payload => ?_,
      fun payload => ?_, fun c v => ?_, fun payload => ?_, fun c v => ?_⟩⟩
  · exact incidents_withSettings { Serializer.new allowList with audited := true } settings
  · rw [incidents_withSettings, if_pos haudited]
  · rw [(accounts_deserialize s c payload).incidents, if_pos haudited]
  · rw [incidents_deserializeBound, if_pos haudited]
  · rw [incidents_serializeTagged, if_pos haudited]
  · rw [isInsecure_deserializeBound_iff, hs.active_eq_none_iff]
  · rw [isInsecure_serializeTagged_iff, hs.active_eq_none_iff]

end Serializer

namespace Sample

/-- Two tags that are not trusted, one after the other. -/
def strangers : Json := .arr [.obj [(typeKey, .str ['E'])], .obj [(typeKey, .str ['F'])]]

theorem readsBack_strangers : strangers.ReadsBack := by
  have htype : typeKey ≠ Json.wrapMark := by decide
  simp [strangers, Json.readsBack_arr, Json.readsBack_obj, Json.readsBack_str, Json.keys, htype]

end Sample

/-- Of two tags that are not trusted, one is handed over.  Settings that ask for tags without an
allow-list are handed over as well. -/
theorem incidents_of_reachable_strangers :
    let s := (Serializer.new (some Sample.allowList)).withAudit
    let bare := (Serializer.new (none : Option (AllowList Sample.catalogue))).withAudit
    s.Reachable ∧ s.audited = true ∧
    (s.deserialize () Sample.strangers.write).incidents = [.typeRejected ['E'] ['E']] ∧
    bare.Reachable ∧ bare.audited = true ∧
    (bare.withSettings { tagging := .all }).incidents = [.insecureConfiguration
      "type name handling 'All' requires an allow-list binder".toList] := by
  intro s bare
  have hs : s.Reachable := .withAudit (.new _)
  have hbare : bare.Reachable := .withAudit (.new _)
  have hactive : s.active = some Sample.allowList := rfl
  have hread : s.readDocument Sample.strangers.write = .ok Sample.strangers :=
    Serializer.readDocument_write Sample.readsBack_strangers (by decide) (by decide)
  have hresult : (s.deserialize () Sample.strangers.write).result
      = .error (.refused (.unknownType ['E'] ['E'])) :=
    Serializer.result_deserialize hactive hread ()
  obtain ⟨-, -, -, -, hcalls⟩ := Serializer.incidents_of_reachable (C := Sample.catalogue)
  obtain ⟨-, hdeserialize, -⟩ := hcalls s hs rfl
  obtain ⟨hsettings, -⟩ := hcalls bare hbare rfl
  refine ⟨hs, rfl, ?_, hbare, rfl, ?_⟩
  · exact (hdeserialize () _).trans (congrArg Report.due hresult)
  · exact hsettings _

end Payload

end Rampart

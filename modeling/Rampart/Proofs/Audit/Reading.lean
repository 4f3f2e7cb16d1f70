import Mathlib
import Rampart.Audit.Event
import Rampart.Proofs.Audit.Timestamp
import Rampart.Proofs.Json.RoundTrip
import Rampart.Proofs.Sequencing

/-!
# Events are read back from their text

The text of an event is an object of strings with the kind in front and the time at the end.  No
field is named as one of these two and no two fields of a kind have one name, so each string is put
where it was taken from, whatever it holds.

* `Event.readMembers_fields` : the members behind the kind are read back;
* `Event.ofMembers_members` : the members of an event make up the event;
* `Event.parse_write`, `Event.json_parse_write` : the text of an event is read back, as an event and
  as a document.
-/

namespace Rampart.Audit

open Json

/-! ## The names of fields -/

namespace IncidentKind

/-- No two members of an event have one name. -/
theorem nodup_keys (k : IncidentKind) : (kindKey :: (k.fields ++ [timeKey])).Nodup := by
  cases k <;> decide

theorem nodup_fields (k : IncidentKind) : k.fields.Nodup :=
  (List.nodup_append.1 (List.nodup_cons.1 k.nodup_keys).2).1

theorem timeKey_not_mem_fields (k : IncidentKind) : timeKey ∉ k.fields := by
  intro hmem
  have hne := (List.nodup_append.1 (List.nodup_cons.1 k.nodup_keys).2).2.2
  exact hne timeKey hmem timeKey List.mem_cons_self rfl

end IncidentKind

/-- Each field is named. -/
theorem Incident.map_fst_named (i : Incident) : i.named.map Prod.fst = i.kind.fields :=
  List.map_fst_zip (Nat.le_of_eq i.length_values.symm)

/-- Each value has a name. -/
theorem Incident.map_snd_named (i : Incident) : i.named.map Prod.snd = i.values :=
  List.map_snd_zip (Nat.le_of_eq i.length_values)

/-- The named fields of an incident as members of an object, with the time behind them. -/
def Incident.members (i : Incident) (time : Text) : List (Text × Text) :=
  i.named ++ [(timeKey, time)]

/-- A named text as a member of an object. -/
def member (f : Text × Text) : Text × Json := (f.1, .str f.2)

/-- The object of an incident has the kind in front. -/
theorem Incident.toJson_eq (i : Incident) (time : Text) :
    i.toJson time = .obj (member (kindKey, i.kind.name) :: (i.members time).map member) := by
  rw [Incident.toJson, Incident.members, List.map_append]
  rfl

/-- The names of the members behind the kind. -/
theorem Incident.map_fst_members (i : Incident) (time : Text) :
    (i.members time).map Prod.fst = i.kind.fields ++ [timeKey] := by
  rw [Incident.members, List.map_append, Incident.map_fst_named]
  rfl

/-- No member behind the kind is named as the kind. -/
theorem Incident.ne_kindKey_of_mem_members {i : Incident} {time : Text} {f : Text × Text}
    (hf : f ∈ i.members time) : f.1 ≠ kindKey := by
  intro heq
  apply (List.nodup_cons.1 i.kind.nodup_keys).1
  rw [← i.map_fst_members time, ← heq]
  exact List.mem_map_of_mem hf

namespace Event

/-! ## Reading members -/

/-- A member behind another is read back in front of what follows it. -/
theorem readMembers_member {room fuel : Nat} {kind kind' : Option IncidentKind} {f : Text × Text}
    {ms : List (Text × Json)} {t rest : Text} (hkey : f.1 ≠ kindKey)
    (htail : readMembers room fuel false kind t = .ok (kind', ms, rest)) :
    readMembers room (fuel + 1) false kind (',' :: (writeMember (member f) ++ t))
      = .ok (kind', member f :: ms, rest) := by
  -- the key, the colon and the value are taken in turn, then the members behind them
  rw [writeMember_append, readMembers]
  show (lift (stringBody (f.1.flatMap escape ++ _)) >>= _) = _
  rw [stringBody_flatMap_escape]
  show (if f.1 = kindKey then _ else lift (colon _) >>= _) = _
  rw [if_neg hkey]
  show (lift (value false _ room (writeString f.2 ++ t)) >>= _) = _
  rw [value_writeString]
  show (readMembers room fuel false kind t >>= _) = _
  rw [htail]
  rfl

/-- **The members behind the kind are read back**, if none of them is named as the kind. -/
theorem readMembers_fields {room fuel : Nat} {kind : Option IncidentKind} {fs : List (Text × Text)}
    (hkeys : ∀ f ∈ fs, f.1 ≠ kindKey) (hfuel : fs.length < fuel) (rest : Text) :
    readMembers room fuel false kind
      (((fs.map member).flatMap fun m => ',' :: writeMember m) ++ '\x7d' :: rest)
      = .ok (kind, fs.map member, rest) := by
  induction fs generalizing fuel with
  | nil =>
    obtain ⟨fuel, rfl⟩ : ∃ n, fuel = n + 1 := ⟨fuel - 1, by omega⟩
    rw [List.map_nil, List.flatMap_nil, List.nil_append, readMembers, nextKey_end]
    rfl
  | cons f fs ih =>
    rw [List.forall_mem_cons] at hkeys
    rw [List.length_cons] at hfuel
    -- each member takes one unit of fuel, and the brace at the end takes the last
    obtain ⟨fuel, rfl⟩ : ∃ n, fuel = n + 1 := ⟨fuel - 1, by omega⟩
    rw [List.map_cons, List.flatMap_cons, List.append_assoc]
    exact readMembers_member hkeys.1 (ih hkeys.2 (by omega))

/-- A kind is read back from its name. -/
theorem readKind_name (k : IncidentKind) (fuel : Nat) (rest : Text) :
    readKind (fuel + 1) (writeString k.name ++ rest) = .ok (k, rest) := by
  have hvalue := value_writeString false fuel 0 k.name rest
  rw [readKind]
  rw [writeString, List.cons_append] at hvalue ⊢
  rw [skipBlanks_of_opens (by decide)]
  show (lift (value false (fuel + 1) 0 _) >>= _) = _
  rw [hvalue]
  show (mismatchAt rest (IncidentKind.ofName k.name) >>= _) = _
  rw [IncidentKind.ofName_name]
  rfl

/-- The kind is read back in front of the other members. -/
theorem readMembers_kind {room fuel : Nat} {f : Text × Text} {k : IncidentKind} {t : Text}
    (hkey : f.1 = kindKey) (hname : f.2 = k.name) :
    readMembers room (fuel + 2) true none (writeMember (member f) ++ t)
      = readMembers room (fuel + 1) false (some k) t := by
  have hkind : readKind (fuel + 1) (write (member f).2 ++ t) = .ok (k, t) := by
    rw [member, write, hname, readKind_name]
  -- the kind has not been told before, so it is read and kept
  rw [writeMember_append, readMembers]
  show (lift (stringBody (f.1.flatMap escape ++ _)) >>= _) = _
  rw [stringBody_flatMap_escape]
  show (if f.1 = kindKey then readKind (fuel + 1) (write (member f).2 ++ t) >>= _ else _) = _
  rw [if_pos hkey, hkind]
  rfl

/-! ## From members to events -/

/-- A text is found under its name, if no two names are alike. -/
theorem lookup_of_mem {fs : List (Text × Text)} (hnodup : (fs.map Prod.fst).Nodup)
    {f : Text × Text} (hf : f ∈ fs) : fs.lookup f.1 = some f.2 := by
  obtain ⟨before, after, rfl⟩ := List.append_of_mem hf
  rw [List.map_append, List.map_cons, List.nodup_append] at hnodup
  rw [List.lookup_eq_some_iff]
  refine ⟨before, after, rfl, ?_⟩
  intro g hg
  rw [bne_iff_ne]
  exact (hnodup.2.2 g.1 (List.mem_map_of_mem hg) f.1 List.mem_cons_self).symm

/-- A field of the kind that was not found before is taken. -/
theorem take_field {kind : IncidentKind} {found : Found} {f : Text × Text} (hf : f.1 ∈ kind.fields)
    (hnew : f.1 ∉ found.texts.map Prod.fst) :
    take kind found f.1 (.str f.2) = .ok { found with texts := found.texts ++ [f] } := by
  have htime : f.1 ≠ timeKey := by
    intro heq
    rw [heq] at hf
    exact kind.timeKey_not_mem_fields hf
  have hnone : found.texts.lookup f.1 = none := by
    rw [List.lookup_eq_none_iff]
    intro g hg
    rw [bne_iff_ne]
    intro heq
    rw [heq] at hnew
    exact hnew (List.mem_map_of_mem hg)
  rw [take, if_neg htime, if_pos (List.contains_iff_mem.2 hf), hnone]
  rfl

/-- Fields of the kind with different names are taken one after the other. -/
theorem foldlM_take {kind : IncidentKind} {found : Found} {fs : List (Text × Text)}
    (hfs : ∀ f ∈ fs, f.1 ∈ kind.fields) (hnodup : ((found.texts ++ fs).map Prod.fst).Nodup) :
    (fs.map member).foldlM (fun found m => take kind found m.1 m.2) found
      = .ok { found with texts := found.texts ++ fs } := by
  induction fs generalizing found with
  | nil =>
    rw [List.append_nil]
    rfl
  | cons f fs ih =>
    rw [List.forall_mem_cons] at hfs
    -- the name of the first field is not that of one found before
    have hnew : f.1 ∉ found.texts.map Prod.fst := by
      rw [List.map_append, List.nodup_append] at hnodup
      intro hmem
      exact hnodup.2.2 _ hmem f.1 List.mem_cons_self rfl
    rw [List.append_cons] at hnodup ⊢
    rw [List.map_cons, List.foldlM_cons]
    show (take kind found f.1 (.str f.2) >>= _) = _
    rw [take_field hfs.1 hnew]
    exact ih hfs.2 hnodup

/-- The values of fields are found under their names. -/
theorem valuesOf_map {found : Found} {fs : List (Text × Text)}
    (hfs : ∀ f ∈ fs, found.texts.lookup f.1 = some f.2) :
    valuesOf found (fs.map Prod.fst) = .ok (fs.map Prod.snd) := by
  induction fs with
  | nil => rfl
  | cons f fs ih =>
    rw [List.forall_mem_cons] at hfs
    rw [valuesOf, List.map_cons, List.mapM_cons, hfs.1, ← valuesOf, ih hfs.2]
    rfl

/-- The named fields of an incident have different names. -/
theorem nodup_named (i : Incident) : (i.named.map Prod.fst).Nodup := by
  rw [i.map_fst_named]
  exact i.kind.nodup_fields

/-- All members of an event are taken, the fields and then the time. -/
theorem foldlM_members (e : Event) :
    ((e.incident.members e.timestamp.write).map member).foldlM
      (fun found m => take e.incident.kind found m.1 m.2) {}
      = .ok ⟨e.incident.named, some e.timestamp⟩ := by
  have hfields : ∀ f ∈ e.incident.named, f.1 ∈ e.incident.kind.fields := by
    intro f hf
    rw [← e.incident.map_fst_named]
    exact List.mem_map_of_mem hf
  have htake : (e.incident.named.map member).foldlM
      (fun found m => take e.incident.kind found m.1 m.2) {} = .ok ⟨e.incident.named, none⟩ :=
    foldlM_take hfields (nodup_named e.incident)
  have htime : take e.incident.kind ⟨e.incident.named, none⟩ timeKey (.str e.timestamp.write)
      = .ok ⟨e.incident.named, some e.timestamp⟩ := by
    rw [take, if_pos rfl]
    show (decodeTime (.str e.timestamp.write) >>= _) = _
    rw [decodeTime, Timestamp.parse_write]
    rfl
  rw [Incident.members, List.map_append, List.foldlM_append, htake]
  show (take e.incident.kind _ timeKey (.str e.timestamp.write) >>= _) = _
  rw [htime]
  rfl

/-- **The members of an event make up the event.** -/
theorem ofMembers_members (e : Event) :
    ofMembers e.incident.kind ((e.incident.members e.timestamp.write).map member) = .ok e := by
  have hvalues : valuesOf ⟨e.incident.named, some e.timestamp⟩ (e.incident.named.map Prod.fst)
      = .ok (e.incident.named.map Prod.snd) :=
    valuesOf_map fun f hf => lookup_of_mem (nodup_named e.incident) hf
  rw [e.incident.map_fst_named, e.incident.map_snd_named] at hvalues
  refine bind_eq_ok_iff.2 ⟨_, foldlM_members e, ?_⟩
  refine bind_eq_ok_iff.2 ⟨_, hvalues, ?_⟩
  show assemble e.incident.kind e.incident.values e.timestamp = _
  rw [assemble, Incident.ofValues?_values]

/-! ## The text of an event -/

/-- The text of an event, from the left. -/
theorem write_toJson (e : Event) :
    e.toJson.write = '\x7b' :: (writeMember (member (kindKey, e.incident.kind.name))
      ++ ((((e.incident.members e.timestamp.write).map member).flatMap
        fun m => ',' :: writeMember m) ++ ['\x7d'])) := by
  rw [toJson, Incident.toJson_eq, write, writeMembers_cons, List.append_assoc]

/-- There are not more members than characters. -/
theorem length_le_length_flatMap (ms : List (Text × Json)) :
    ms.length ≤ (ms.flatMap fun m => ',' :: writeMember m).length := by
  induction ms with
  | nil => exact Nat.le_refl 0
  | cons m ms ih =>
    rw [List.flatMap_cons, List.length_append, List.length_cons, List.length_cons]
    omega

/-- The outer form of the text of an event is that of the event. -/
theorem readForm_write_toJson (e : Event) : readForm e.toJson.write = .ok (.ok e, []) := by
  -- the fuel is measured by the text, in which each member has a character at least
  have hlength : (e.incident.members e.timestamp.write).length ≤ e.toJson.write.length := by
    have hle := length_le_length_flatMap ((e.incident.members e.timestamp.write).map member)
    rw [List.length_map] at hle
    rw [write_toJson, List.length_cons, List.length_append, List.length_append]
    omega
  have hmembers : readMembers (maxRoom - 1) (2 * e.toJson.write.length + 2) true none
      (writeMember (member (kindKey, e.incident.kind.name))
        ++ ((((e.incident.members e.timestamp.write).map member).flatMap
          fun m => ',' :: writeMember m) ++ ['\x7d']))
      = .ok (some e.incident.kind, (e.incident.members e.timestamp.write).map member, []) := by
    rw [readMembers_kind rfl rfl]
    exact readMembers_fields (fun f hf => Incident.ne_kindKey_of_mem_members hf) (by omega) []
  rw [readForm]
  generalize 2 * e.toJson.write.length + 2 = fuel at hmembers ⊢
  rw [write_toJson, skipBlanks_of_opens (by decide)]
  show (readMembers (maxRoom - 1) fuel true none _ >>= _) = _
  rw [hmembers]
  show Except.ok (ofMembers e.incident.kind _, []) = _
  rw [ofMembers_members]

/-- **The text of an event is read back as the event.** -/
theorem parse_write (e : Event) : parse e.toJson.write = .ok e := by
  rw [parse, readForm_write_toJson]
  rfl

/-- The object of an event holds nothing but strings. -/
theorem depthMembers_map_member (fs : List (Text × Text)) :
    depthMembers (fs.map member) = 0 := by
  induction fs with
  | nil => rfl
  | cons f fs ih =>
    rw [List.map_cons, member, depthMembers, ih]
    rfl

/-- **The text of an event is a document of its own**, and is read back as one. -/
theorem json_parse_write (e : Event) : Json.parse e.toJson.write = .ok e.toJson := by
  have hkeys : keys (((kindKey, e.incident.kind.name)
      :: e.incident.members e.timestamp.write).map member)
      = kindKey :: (e.incident.kind.fields ++ [timeKey]) := by
    rw [← e.incident.map_fst_members e.timestamp.write, keys, List.map_map]
    rfl
  rw [toJson, Incident.toJson_eq, ← List.map_cons]
  apply Json.parse_write
  · rw [readsBack_obj, hkeys]
    refine ⟨⟨e.incident.kind.nodup_keys, ?_⟩, ?_⟩
    · rw [List.head?_cons]
      decide
    · intro m hm
      obtain ⟨f, -, rfl⟩ := List.mem_map.1 hm
      exact readsBack_str f.2
  · rw [depth, depthMembers_map_member]
    decide

end Event

end Rampart.Audit

import Mathlib
import Rampart.Config.Load
import Rampart.Proofs.Sequencing

/-!
# The configuration is layered setting by setting

The environment is laid over the file.  What is read in the end is, for each setting, what the
environment says about it, or else what the file says, or else the default.  There is one exception:
a section may be written as a list of its values in order.  Such a list has no keys to lay anything
over, so it gives way as a whole as soon as the environment speaks of one setting of the section.

* `Leaf.eq_of_forall_get_eq` : the settings make up the configuration;
* `Leaf.value?_of_read?` : a setting is read from what is found under its name;
* `Leaf.found?_assign_self`, `Leaf.found?_assign_of_not_isListed`,
  `Leaf.found?_assign_of_isListed` : what one variable does to its own setting and to the others;
* `Leaf.found?_addSource_of_mem`, `Leaf.found?_addSource_of_not_mem`,
  `Leaf.found?_addSource_of_isListed` : what the whole environment does;
* `layered_per_setting` : the resulting statement about the configuration, and
  `list_section_gives_way` : the exception.
-/

namespace Rampart.Config

/-! ## Settings of the configuration -/

/-- The settings of a configuration. -/
inductive Leaf
  | style
  | allowSubdirectories
  | tagging
  | maxDepth
  | logToStdout
  | logToFile
  | bufferSize
  | enableAlerting
  | level
  | json
  deriving DecidableEq, Repr

namespace Leaf

/-- The key of the section that a setting belongs to. -/
def area : Leaf → Text
  | .style | .allowSubdirectories => "paths"
  | .tagging | .maxDepth => "deserialization"
  | .logToStdout | .logToFile | .bufferSize | .enableAlerting => "audit"
  | .level | .json => "logging"

/-- The key of a setting in its section. -/
def name : Leaf → Text
  | .style => "style"
  | .allowSubdirectories => "allow_subdirectories"
  | .tagging => "type_name_handling"
  | .maxDepth => "max_depth"
  | .logToStdout => "log_to_stdout"
  | .logToFile => "log_to_file"
  | .bufferSize => "buffer_size"
  | .enableAlerting => "enable_alerting"
  | .level => "level"
  | .json => "json"

/-- The keys of the section that a setting belongs to, in order. -/
def order : Leaf → List Text
  | .style | .allowSubdirectories => PathSettings.fields.map Json.Field.name
  | .tagging | .maxDepth => Payload.Settings.fields.map Json.Field.name
  | .logToStdout | .logToFile | .bufferSize | .enableAlerting =>
    Audit.Config.fields.map Json.Field.name
  | .level | .json => LogSettings.fields.map Json.Field.name

/-- The key that a variable stands for if it speaks of a setting. -/
def key (x : Leaf) : Text := x.area ++ '.' :: x.name

/-- Where a setting stands. -/
def place (x : Leaf) : List Step := [.key x.area, .key x.name]

/-- The values of a setting. -/
def Value : Leaf → Type
  | .style => Path.Style
  | .tagging => Payload.Tagging
  | .maxDepth => Option Nat
  | .logToFile => Option Text
  | .bufferSize => Nat
  | .level => Text
  | .allowSubdirectories | .logToStdout | .enableAlerting | .json => Bool

/-- The value of a setting. -/
def get : (x : Leaf) → Config → x.Value
  | .style, c => c.paths.style
  | .allowSubdirectories, c => c.paths.allowSubdirectories
  | .tagging, c => c.payloads.tagging
  | .maxDepth, c => c.payloads.maxDepth
  | .logToStdout, c => c.audit.logToStdout
  | .logToFile, c => c.audit.logToFile
  | .bufferSize, c => c.audit.bufferSize
  | .enableAlerting, c => c.audit.enableAlerting
  | .level, c => c.logging.level
  | .json, c => c.logging.json

/-- How the value of a setting is read. -/
def read? : (x : Leaf) → Setting → Option x.Value
  | .style => Setting.toChoice? Path.Style.choices
  | .tagging => Setting.toChoice? Payload.Tagging.choices
  | .maxDepth => Setting.toOption? Setting.toSize?
  | .logToFile => Setting.toOption? Setting.toText?
  | .bufferSize => Setting.toSize?
  | .level => Setting.toText?
  | .allowSubdirectories => Setting.toBool?
  | .logToStdout => Setting.toBool?
  | .enableAlerting => Setting.toBool?
  | .json => Setting.toBool?

/-- The value of a setting that nothing is said about. -/
def default (x : Leaf) : x.Value := x.get {}

/-- The settings make up the configuration. -/
theorem eq_of_forall_get_eq {c c' : Config} (h : ∀ x : Leaf, x.get c = x.get c') : c = c' := by
  obtain ⟨⟨style, allow⟩, ⟨tagging, depth⟩, ⟨out, file, size, alert⟩, ⟨level, json⟩⟩ := c
  obtain rfl : style = _ := h .style
  obtain rfl : allow = _ := h .allowSubdirectories
  obtain rfl : tagging = _ := h .tagging
  obtain rfl : depth = _ := h .maxDepth
  obtain rfl : out = _ := h .logToStdout
  obtain rfl : file = _ := h .logToFile
  obtain rfl : size = _ := h .bufferSize
  obtain rfl : alert = _ := h .enableAlerting
  obtain rfl : level = _ := h .level
  obtain rfl : json = _ := h .json
  rfl

/-- The section that a setting belongs to, as the settings give it. -/
def section? (x : Leaf) (root : Setting) : Option Setting := Setting.lookup x.area root.members

/-- What the settings say about a setting. -/
def found? (x : Leaf) (root : Setting) : Option Setting :=
  ((x.section? root).bind fun s => s.fields? x.order).bind fun get => get x.name

/-- The value of a setting, if what is said about it can be read. -/
def value? (x : Leaf) (root : Setting) : Option x.Value :=
  match x.found? root with
  | some s => x.read? s
  | none => some x.default

/-- The section of a setting is given as a list of values. -/
def IsListed (x : Leaf) (root : Setting) : Prop := ∃ items, x.section? root = some (.list items)

instance (x : Leaf) (root : Setting) : Decidable (x.IsListed root) :=
  match h : x.section? root with
  | some (.list items) => isTrue ⟨items, h⟩
  | none | some .null | some (.bool _) | some (.int _) | some (.float _) | some (.text _)
  | some (.table _) => isFalse fun ⟨_, hlist⟩ => nomatch h.symm.trans hlist

/-- The environment speaks of a setting. -/
def IsSetBy (x : Leaf) (env : List (Text × Text)) : Prop :=
  ∃ v ∈ env, variableKey? v.1 = some x.key

/-- A key leads to its setting. -/
theorem parse_key (x : Leaf) : Step.parse x.key = x.place := by
  cases x <;> rfl

/-- Settings with one key are the same. -/
theorem eq_of_key {x y : Leaf} (harea : x.area = y.area) (hname : x.name = y.name) : x = y := by
  revert harea hname
  cases x <;> cases y <;> decide

theorem key_injective {x y : Leaf} (h : x.key = y.key) : x = y := by
  have hplace : x.place = y.place := by rw [← parse_key, h, parse_key]
  have hkeys : x.area = y.area ∧ x.name = y.name := by simpa [place] using hplace
  exact eq_of_key hkeys.1 hkeys.2

end Leaf

/-! ## Reading -/

theorem PathSettings.read?_eq_some {s : Setting} {p : PathSettings} (h : read? s = some p) :
    ∃ get, s.fields? (fields.map Json.Field.name) = some get ∧
      setting get "style" (Setting.toChoice? Path.Style.choices) ({} : PathSettings).style
        = some p.style ∧
      setting get "allow_subdirectories" Setting.toBool? ({} : PathSettings).allowSubdirectories
        = some p.allowSubdirectories := by
  simp only [read?, Option.bind_eq_bind, Option.bind_eq_some_iff] at h
  obtain ⟨get, hget, style, hstyle, allow, hallow, h⟩ := h
  cases h
  exact ⟨get, hget, hstyle, hallow⟩

theorem readPayloads?_eq_some {s : Setting} {p : Payload.Settings} (h : readPayloads? s = some p) :
    ∃ get, s.fields? (Payload.Settings.fields.map Json.Field.name) = some get ∧
      setting get "type_name_handling" (Setting.toChoice? Payload.Tagging.choices)
        ({} : Payload.Settings).tagging = some p.tagging ∧
      setting get "max_depth" (Setting.toOption? Setting.toSize?)
        ({} : Payload.Settings).maxDepth = some p.maxDepth := by
  simp only [readPayloads?, Option.bind_eq_bind, Option.bind_eq_some_iff] at h
  obtain ⟨get, hget, tagging, htagging, depth, hdepth, h⟩ := h
  cases h
  exact ⟨get, hget, htagging, hdepth⟩

theorem readAudit?_eq_some {s : Setting} {p : Audit.Config} (h : readAudit? s = some p) :
    ∃ get, s.fields? (Audit.Config.fields.map Json.Field.name) = some get ∧
      setting get "log_to_stdout" Setting.toBool? ({} : Audit.Config).logToStdout
        = some p.logToStdout ∧
      setting get "log_to_file" (Setting.toOption? Setting.toText?) ({} : Audit.Config).logToFile
        = some p.logToFile ∧
      setting get "buffer_size" Setting.toSize? ({} : Audit.Config).bufferSize
        = some p.bufferSize ∧
      setting get "enable_alerting" Setting.toBool? ({} : Audit.Config).enableAlerting
        = some p.enableAlerting := by
  simp only [readAudit?, Option.bind_eq_bind, Option.bind_eq_some_iff] at h
  obtain ⟨get, hget, out, hout, file, hfile, size, hsize, alert, halert, h⟩ := h
  cases h
  exact ⟨get, hget, hout, hfile, hsize, halert⟩

theorem LogSettings.read?_eq_some {s : Setting} {p : LogSettings} (h : read? s = some p) :
    ∃ get, s.fields? (fields.map Json.Field.name) = some get ∧
      setting get "level" Setting.toText? ({} : LogSettings).level = some p.level ∧
      setting get "json" Setting.toBool? ({} : LogSettings).json = some p.json := by
  simp only [read?, Option.bind_eq_bind, Option.bind_eq_some_iff] at h
  obtain ⟨get, hget, level, hlevel, json, hjson, h⟩ := h
  cases h
  exact ⟨get, hget, hlevel, hjson⟩

theorem read?_eq_some {root : Setting} {c : Config} (h : read? root = some c) :
    setting (fun name => Setting.lookup name root.members) "paths" PathSettings.read? {}
      = some c.paths ∧
    setting (fun name => Setting.lookup name root.members) "deserialization" readPayloads? {}
      = some c.payloads ∧
    setting (fun name => Setting.lookup name root.members) "audit" readAudit? {} = some c.audit ∧
    setting (fun name => Setting.lookup name root.members) "logging" LogSettings.read? {}
      = some c.logging := by
  simp only [read?, Option.bind_eq_bind, Option.bind_eq_some_iff] at h
  obtain ⟨paths, hpaths, payloads, hpayloads, audit, haudit, logging, hlogging, h⟩ := h
  cases h
  exact ⟨hpaths, hpayloads, haudit, hlogging⟩

namespace Leaf

/-- A setting of a section that is read has its value from what is found under its name. -/
theorem value?_of_section {α : Type} {root : Setting} {area : Text}
    {readSection : Setting → Option α} {d a : α} (x : Leaf) (get : α → x.Value)
    (harea : x.area = area) (hdefault : x.default = get d)
    (ha : setting (fun name => Setting.lookup name root.members) area readSection d = some a)
    (hread : ∀ s a, readSection s = some a → ∃ fields, s.fields? x.order = some fields ∧
      setting fields x.name x.read? x.default = some (get a)) :
    x.value? root = some (get a) := by
  subst harea
  simp only [setting] at ha
  rw [value?, found?, section?]
  cases hs : Setting.lookup x.area root.members with
  | none =>
    rw [hs] at ha
    cases ha
    exact congrArg some hdefault
  | some s =>
    rw [hs] at ha
    obtain ⟨fields, hfields, hvalue⟩ := hread s a ha
    rw [Option.bind_some, hfields]
    exact hvalue

/-- **Each setting is read from what is found under its name.** -/
theorem value?_of_read? {root : Setting} {c : Config} (h : Config.read? root = some c) (x : Leaf) :
    x.value? root = some (x.get c) := by
  obtain ⟨hpaths, hpayloads, haudit, hlogging⟩ := read?_eq_some h
  -- for each setting the section that it is in, and its part of what is read there
  cases x with
  | style =>
    refine value?_of_section .style PathSettings.style rfl rfl hpaths ?_
    intro s p hp
    obtain ⟨fields, hfields, hstyle, -⟩ := PathSettings.read?_eq_some hp
    exact ⟨fields, hfields, hstyle⟩
  | allowSubdirectories =>
    refine value?_of_section .allowSubdirectories PathSettings.allowSubdirectories rfl rfl hpaths ?_
    intro s p hp
    obtain ⟨fields, hfields, -, hallow⟩ := PathSettings.read?_eq_some hp
    exact ⟨fields, hfields, hallow⟩
  | tagging =>
    refine value?_of_section .tagging Payload.Settings.tagging rfl rfl hpayloads ?_
    intro s p hp
    obtain ⟨fields, hfields, htagging, -⟩ := readPayloads?_eq_some hp
    exact ⟨fields, hfields, htagging⟩
  | maxDepth =>
    refine value?_of_section .maxDepth Payload.Settings.maxDepth rfl rfl hpayloads ?_
    intro s p hp
    obtain ⟨fields, hfields, -, hdepth⟩ := readPayloads?_eq_some hp
    exact ⟨fields, hfields, hdepth⟩
  | logToStdout =>
    refine value?_of_section .logToStdout Audit.Config.logToStdout rfl rfl haudit ?_
    intro s p hp
    obtain ⟨fields, hfields, hout, -, -, -⟩ := readAudit?_eq_some hp
    exact ⟨fields, hfields, hout⟩
  | logToFile =>
    refine value?_of_section .logToFile Audit.Config.logToFile rfl rfl haudit ?_
    intro s p hp
    obtain ⟨fields, hfields, -, hfile, -, -⟩ := readAudit?_eq_some hp
    exact ⟨fields, hfields, hfile⟩
  | bufferSize =>
    refine value?_of_section .bufferSize Audit.Config.bufferSize rfl rfl haudit ?_
    intro s p hp
    obtain ⟨fields, hfields, -, -, hsize, -⟩ := readAudit?_eq_some hp
    exact ⟨fields, hfields, hsize⟩
  | enableAlerting =>
    refine value?_of_section .enableAlerting Audit.Config.enableAlerting rfl rfl haudit ?_
    intro s p hp
    obtain ⟨fields, hfields, -, -, -, halert⟩ := readAudit?_eq_some hp
    exact ⟨fields, hfields, halert⟩
  | level =>
    refine value?_of_section .level LogSettings.level rfl rfl hlogging ?_
    intro s p hp
    obtain ⟨fields, hfields, hlevel, -⟩ := LogSettings.read?_eq_some hp
    exact ⟨fields, hfields, hlevel⟩
  | json =>
    refine value?_of_section .json LogSettings.json rfl rfl hlogging ?_
    intro s p hp
    obtain ⟨fields, hfields, -, hjson⟩ := LogSettings.read?_eq_some hp
    exact ⟨fields, hfields, hjson⟩

end Leaf

/-! ## Laying over -/

/-- Whether a setting can be put into others as a table. -/
def Setting.IsTable : Setting → Prop
  | .table _ => True
  | _ => False

/-- What is no table takes the place of what was there. -/
theorem Setting.overlay_of_not_isTable {v : Setting} (hv : ¬ v.IsTable) (under : Setting) :
    overlay v under = v := by
  cases v with
  | table ms => exact absurd trivial hv
  | _ => rfl

/-- The value of a variable is no table. -/
theorem not_isTable_variableValue (t : Text) : ¬ (variableValue t).IsTable := by
  unfold variableValue
  split_ifs with htrue hfalse
  · exact id
  · exact id
  · cases (Text.toInt? t).filter isInt64 with
    | some n => exact id
    | none =>
      cases Extended.parse? t with
      | some x => exact id
      | none => exact id

namespace Leaf

variable {x y : Leaf} {root : Setting} {v : Setting}

/-- A value is put into the table of its section, and the section into the table of all. -/
theorem assign_place (x : Leaf) (hv : ¬ v.IsTable) (root : Setting) :
    root.assign x.place v = .table (Setting.insert x.area
      (.table (Setting.insert x.name v ((x.section? root).getD .null).members)) root.members) := by
  rw [Setting.assign, place, Setting.modifyAt, Setting.modifyAt, Setting.modifyAt,
    Setting.overlay_of_not_isTable hv]
  rfl

/-- The section of a value that was put in is a table. -/
theorem section?_assign (hv : ¬ v.IsTable) (harea : y.area = x.area) :
    y.section? (root.assign x.place v)
      = some (.table (Setting.insert x.name v ((x.section? root).getD .null).members)) := by
  rw [assign_place x hv, section?, harea]
  exact Setting.lookup_insert_self ..

/-- Other sections stay as they are. -/
theorem section?_assign_of_ne (hv : ¬ v.IsTable) (harea : y.area ≠ x.area) :
    y.section? (root.assign x.place v) = y.section? root := by
  rw [assign_place x hv, section?]
  exact Setting.lookup_insert_of_ne _ _ harea

/-- A value that was put in is found. -/
theorem found?_assign_self (hv : ¬ v.IsTable) : x.found? (root.assign x.place v) = some v := by
  rw [found?, section?_assign hv rfl]
  exact Setting.lookup_insert_self ..

theorem found?_assign_of_area_ne (hv : ¬ v.IsTable) (harea : y.area ≠ x.area) :
    y.found? (root.assign x.place v) = y.found? root := by
  rw [found?, found?, section?_assign_of_ne hv harea]

/-- The other settings of a section are found in the table that the section was, if it was one. -/
theorem found?_assign_of_area_eq (hv : ¬ v.IsTable) (harea : y.area = x.area) (hne : y ≠ x) :
    y.found? (root.assign x.place v)
      = Setting.lookup y.name ((y.section? root).getD .null).members := by
  have hname : y.name ≠ x.name := fun h => hne (eq_of_key harea h)
  have hsection : y.section? root = x.section? root := by rw [section?, section?, harea]
  rw [found?, section?_assign hv harea, hsection]
  exact Setting.lookup_insert_of_ne _ _ hname

/-- What is said about the other settings of a section lasts if the section is no list. -/
theorem found?_assign_of_not_isListed (hv : ¬ v.IsTable) (harea : y.area = x.area) (hne : y ≠ x)
    (hlist : ¬ y.IsListed root) : y.found? (root.assign x.place v) = y.found? root := by
  rw [found?_assign_of_area_eq hv harea hne, found?]
  cases hs : y.section? root with
  | none => rfl
  | some s =>
    -- what is neither table nor list says nothing about its settings, before and after
    cases s with
    | list items => exact absurd ⟨items, hs⟩ hlist
    | table ms => rfl
    | _ => rfl

/-- Nothing is left of what a list said. -/
theorem found?_assign_of_isListed (hv : ¬ v.IsTable) (harea : y.area = x.area) (hne : y ≠ x)
    (hlist : y.IsListed root) : y.found? (root.assign x.place v) = none := by
  obtain ⟨items, hitems⟩ := hlist
  rw [found?_assign_of_area_eq hv harea hne, hitems]
  rfl

/-- A section is a list after a value was put in only if it was one before and the value went into
another. -/
theorem isListed_assign (hv : ¬ v.IsTable) :
    y.IsListed (root.assign x.place v) ↔ y.area ≠ x.area ∧ y.IsListed root := by
  by_cases harea : y.area = x.area
  · constructor
    · rintro ⟨items, hitems⟩
      rw [section?_assign hv harea] at hitems
      cases hitems
    · rintro ⟨hne, -⟩
      exact absurd harea hne
  · rw [IsListed, IsListed, section?_assign_of_ne hv harea]
    exact (and_iff_right harea).symm

/-! ### Sources -/

/-- A source whose keys lead to settings of the configuration and whose values are no tables. -/
def Speaks (source : List (Text × Setting)) : Prop :=
  ∀ m ∈ source, ¬ m.2.IsTable ∧ ∃ x : Leaf, m.1 = x.key

/-- The keys of a source. -/
def keys (source : List (Text × Setting)) : List Text := source.map Prod.fst

/-- A source is laid over the others value by value. -/
theorem addSource_cons (x : Leaf) (v : Setting) (source : List (Text × Setting)) (root : Setting) :
    root.addSource ((x.key, v) :: source) = (root.assign x.place v).addSource source := by
  rw [Setting.addSource, List.foldl_cons, parse_key]
  rfl

variable {source : List (Text × Setting)}

/-- What a source does not speak of stays as it was, unless it goes with the list it was in. -/
theorem found?_addSource_of_not_mem (hsource : Speaks source) (hx : x.key ∉ keys source)
    (hlist : x.IsListed root → ∀ y : Leaf, y.area = x.area → y.key ∉ keys source) :
    x.found? (root.addSource source) = x.found? root := by
  induction source generalizing root with
  | nil => rfl
  | cons m source ih =>
    obtain ⟨k, v⟩ := m
    obtain ⟨⟨hv, y, rfl⟩, hrest⟩ := List.forall_mem_cons.1 hsource
    have hx' : x.key ≠ y.key ∧ x.key ∉ keys source := not_or.1 (mt List.mem_cons.2 hx)
    have hne : x ≠ y := fun h => hx'.1 (congrArg key h)
    rw [addSource_cons, ih hrest hx'.2 ?_]
    -- the first value goes into the same section, which is then no list, or into another
    · by_cases harea : x.area = y.area
      · refine found?_assign_of_not_isListed hv harea hne fun hlisted => ?_
        exact hlist hlisted y harea.symm List.mem_cons_self
      · exact found?_assign_of_area_ne hv harea
    · intro hlisted z hz hmem
      rw [isListed_assign hv] at hlisted
      exact hlist hlisted.2 z hz (List.mem_cons_of_mem _ hmem)

/-- Nothing is left of a list when a source speaks of another setting in it. -/
theorem found?_addSource_of_isListed (hsource : Speaks source) (hx : x.key ∉ keys source)
    (hlist : x.IsListed root) (hy : y.area = x.area) (hmem : y.key ∈ keys source) :
    x.found? (root.addSource source) = none := by
  induction source generalizing root with
  | nil => cases hmem
  | cons m source ih =>
    obtain ⟨k, v⟩ := m
    obtain ⟨⟨hv, z, rfl⟩, hrest⟩ := List.forall_mem_cons.1 hsource
    have hx' : x.key ≠ z.key ∧ x.key ∉ keys source := not_or.1 (mt List.mem_cons.2 hx)
    rw [addSource_cons]
    by_cases harea : x.area = z.area
    · -- this value takes the place of the list, so that later ones find a table
      have hne : x ≠ z := fun h => hx'.1 (congrArg key h)
      rw [found?_addSource_of_not_mem hrest hx'.2, found?_assign_of_isListed hv harea hne hlist]
      intro hlisted
      rw [isListed_assign hv] at hlisted
      exact absurd harea hlisted.1
    · refine ih hrest hx'.2 ((isListed_assign hv).2 ⟨harea, hlist⟩) ?_
      rcases List.mem_cons.1 hmem with hkey | hmem
      · exact absurd (hy.symm.trans (congrArg area (key_injective hkey))) harea
      · exact hmem

/-- What a source speaks of is as it says, whatever was there. -/
theorem found?_addSource_of_mem (hsource : Speaks source) (hx : x.key ∈ keys source)
    (root root' : Setting) :
    x.found? (root.addSource source) = x.found? (root'.addSource source) := by
  induction source generalizing root root' with
  | nil => cases hx
  | cons m source ih =>
    obtain ⟨k, v⟩ := m
    obtain ⟨⟨hv, y, rfl⟩, hrest⟩ := List.forall_mem_cons.1 hsource
    rw [addSource_cons, addSource_cons]
    by_cases hlast : x.key ∈ keys source
    · exact ih hrest hlast _ _
    · -- the source does not speak of the setting again, so this value stays
      obtain rfl : x = y := key_injective ((List.mem_cons.1 hx).resolve_right hlast)
      have hstays : ∀ root : Setting,
          x.found? ((root.assign x.place v).addSource source) = some v := by
        intro root
        rw [found?_addSource_of_not_mem hrest hlast, found?_assign_self hv]
        intro hlisted
        rw [isListed_assign hv] at hlisted
        exact absurd rfl hlisted.1
      rw [hstays, hstays]

/-! ## The environment over a file -/

/-- Each variable that stands for a key speaks of a setting of the configuration. -/
def EnvSpeaks (env : List (Text × Text)) : Prop :=
  ∀ v ∈ env, ∀ k, variableKey? v.1 = some k → ∃ x : Leaf, k = x.key

variable {env : List (Text × Text)}

/-- The environment gives values for the settings that it speaks of. -/
theorem speaks_environment (henv : EnvSpeaks env) : Speaks (environment env) := by
  intro m hm
  obtain ⟨v, hv, hvalue⟩ := List.mem_filterMap.1 hm
  obtain ⟨k, hk, rfl⟩ := Option.map_eq_some_iff.1 hvalue
  exact ⟨not_isTable_variableValue v.2, henv v hv k hk⟩

theorem mem_keys_environment : x.key ∈ keys (environment env) ↔ x.IsSetBy env := by
  rw [keys, List.mem_map]
  constructor
  · rintro ⟨m, hm, hkey⟩
    obtain ⟨v, hv, hvalue⟩ := List.mem_filterMap.1 hm
    obtain ⟨k, hk, rfl⟩ := Option.map_eq_some_iff.1 hvalue
    refine ⟨v, hv, ?_⟩
    rw [hk]
    exact congrArg some hkey
  · rintro ⟨v, hv, hkey⟩
    refine ⟨(x.key, variableValue v.2), List.mem_filterMap.2 ⟨v, hv, ?_⟩, rfl⟩
    rw [hkey]
    rfl

/-- What is said about a setting tells its value. -/
theorem get_eq_of_found? {c c' : Config} {root' : Setting} (hc : Config.read? root = some c)
    (hc' : Config.read? root' = some c') (h : x.found? root = x.found? root') :
    x.get c = x.get c' := by
  have hvalue := value?_of_read? hc x
  rw [value?, h, ← value?, value?_of_read? hc' x] at hvalue
  exact (Option.some.inj hvalue).symm

/-- A setting that nothing is said about has its default. -/
theorem get_eq_default {c : Config} (hc : Config.read? root = some c) (h : x.found? root = none) :
    x.get c = x.default := by
  have hvalue := value?_of_read? hc x
  rw [value?, h] at hvalue
  exact (Option.some.inj hvalue).symm

end Leaf

/-- A configuration is put together if its settings can be read. -/
theorem read?_of_assemble {settings : List (Text × Setting)} {env : List (Text × Text)} {c : Config}
    (h : assemble settings env = .ok c) :
    read? (((Setting.table []).addSource settings).addSource (environment env)) = some c := by
  rw [assemble] at h
  cases hread : read? (((Setting.table []).addSource settings).addSource (environment env)) with
  | none =>
    rw [hread] at h
    cases h
  | some c' =>
    rw [hread] at h
    cases h
    rfl

/-- **The configuration is layered setting by setting.**  Let each variable of the environment that
counts name one setting, and let reading the file alone, the environment alone and the environment
over the file succeed.  A setting that the environment speaks of has the value that it has by the
environment alone.  Any other setting has the value that it has by the file alone, which is its
default if the file says nothing about it; unless the file gives the section of the setting as a
list and the environment speaks of another setting in the section.  Then the list is gone, and the
setting has its default. -/
theorem layered_per_setting (s : Source) (env : List (Text × Text)) {f e c : Config}
    (henv : Leaf.EnvSpeaks env) (hf : ofFile s [] = .ok f) (he : ofEnvironment env = .ok e)
    (hc : ofFile s env = .ok c) :
    ∃ settings, s.read = .ok settings ∧ ∀ x : Leaf,
      let file := (Setting.table []).addSource settings
      (x.IsSetBy env → x.get c = x.get e) ∧
      (¬ x.IsSetBy env →
        (x.IsListed file → ∀ y : Leaf, y.area = x.area → ¬ y.IsSetBy env) → x.get c = x.get f) ∧
      (¬ x.IsSetBy env → x.IsListed file → ∀ y : Leaf, y.area = x.area → y.IsSetBy env →
        x.get c = x.default) ∧
      (x.found? file = none → x.get f = x.default) := by
  obtain ⟨settings, hsettings, hf⟩ := bind_eq_ok_iff.1 hf
  obtain ⟨settings', hsettings', hc⟩ := bind_eq_ok_iff.1 hc
  rw [hsettings] at hsettings'
  cases hsettings'
  have hspeaks := Leaf.speaks_environment henv
  have hfile := read?_of_assemble hf
  have hboth := read?_of_assemble hc
  refine ⟨settings, hsettings, fun x => ⟨fun hx => ?_, fun hx hlist => ?_,
    fun hx hlist y hy hset => ?_, fun hnone => ?_⟩⟩
  · rw [← Leaf.mem_keys_environment] at hx
    exact Leaf.get_eq_of_found? hboth (read?_of_assemble he)
      (Leaf.found?_addSource_of_mem hspeaks hx _ _)
  · rw [← Leaf.mem_keys_environment] at hx
    refine Leaf.get_eq_of_found? hboth hfile (Leaf.found?_addSource_of_not_mem hspeaks hx ?_)
    intro hlisted y hy
    rw [Leaf.mem_keys_environment]
    exact hlist hlisted y hy
  · rw [← Leaf.mem_keys_environment] at hx hset
    exact Leaf.get_eq_default hboth (Leaf.found?_addSource_of_isListed hspeaks hx hlist hy hset)
  · exact Leaf.get_eq_default hfile hnone

/-- A variable that speaks of the size of the mailbox. -/
def sizeVariable : List (Text × Text) := [("WARDEN__AUDIT__BUFFER_SIZE".toList, ['7'])]

/-- The variable speaks of the size of the mailbox and of nothing else. -/
theorem isSetBy_sizeVariable_iff {x : Leaf} : x.IsSetBy sizeVariable ↔ x = .bufferSize := by
  have hkey : variableKey? "WARDEN__AUDIT__BUFFER_SIZE" = some Leaf.bufferSize.key := rfl
  constructor
  · rintro ⟨v, hv, hx⟩
    obtain rfl := List.mem_singleton.1 hv
    rw [hkey] at hx
    exact (Leaf.key_injective (Option.some.inj hx)).symm
  · rintro rfl
    exact ⟨_, List.mem_cons_self, hkey⟩

theorem envSpeaks_sizeVariable : Leaf.EnvSpeaks sizeVariable := by
  intro v hv k hk
  obtain rfl := List.mem_singleton.1 hv
  exact ⟨.bufferSize, (Option.some.inj hk).symm⟩

/-- A file that gives the section about the audit log as a table. -/
def tableFile : Source where
  path := "w.json"
  found := .file "\x7b\"audit\":\x7b\"log_to_file\":\"f\",\"buffer_size\":5\x7d\x7d"

/-- The variable changes the size of the mailbox, and the log file of the same section stays. -/
theorem layered_per_setting_size : ∃ c, ofFile tableFile sizeVariable = .ok c ∧
    Leaf.bufferSize.get c = (7 : Nat) ∧ Leaf.logToFile.get c = some ['f'] := by
  have htable : ∀ settings, tableFile.read = .ok settings →
      ¬ Leaf.logToFile.IsListed ((Setting.table []).addSource settings) := by
    have hread : (tableFile.read.toOption.any fun settings =>
        decide (Leaf.logToFile.IsListed ((Setting.table []).addSource settings))) = false := by
      decide +kernel
    intro settings hsettings
    rw [hsettings] at hread
    exact of_decide_eq_false hread
  have hf : ofFile tableFile []
      = .ok { audit := { logToFile := some ['f'], bufferSize := 5 } } := by
    decide +kernel
  have he : ofEnvironment sizeVariable = .ok { audit := { bufferSize := 7 } } := by decide +kernel
  have hc : ofFile tableFile sizeVariable
      = .ok { audit := { logToFile := some ['f'], bufferSize := 7 } } := by
    decide +kernel
  obtain ⟨settings, hsettings, h⟩ :=
    layered_per_setting tableFile sizeVariable envSpeaks_sizeVariable hf he hc
  refine ⟨_, hc, ?_, ?_⟩
  · exact (h .bufferSize).1 (isSetBy_sizeVariable_iff.2 rfl)
  · refine (h .logToFile).2.1 (fun hset => ?_) (fun hlist => ?_)
    · exact absurd (isSetBy_sizeVariable_iff.1 hset) (by decide)
    · exact absurd hlist (htable settings hsettings)

/-- A file that gives the section about the audit log as a list. -/
def listFile : Source where
  path := "w.json"
  found := .file "\x7b\"audit\":[false,\"f\",5]\x7d"

/-- **A section that is a list gives way as a whole.**  The variable speaks of the size of the
mailbox only, and yet there is no log file any more. -/
theorem list_section_gives_way :
    Leaf.EnvSpeaks sizeVariable ∧ ¬ Leaf.logToFile.IsSetBy sizeVariable ∧
    ∃ f e c, ofFile listFile [] = .ok f ∧ ofEnvironment sizeVariable = .ok e ∧
      ofFile listFile sizeVariable = .ok c ∧ Leaf.logToFile.get c ≠ Leaf.logToFile.get f := by
  have hf : ofFile listFile []
      = .ok { audit := { logToStdout := false, logToFile := some ['f'], bufferSize := 5 } } := by
    decide +kernel
  have he : ofEnvironment sizeVariable = .ok { audit := { bufferSize := 7 } } := by decide +kernel
  have hc : ofFile listFile sizeVariable = .ok { audit := { bufferSize := 7 } } := by
    decide +kernel
  refine ⟨envSpeaks_sizeVariable, fun hset => ?_, _, _, _, hf, he, hc, ?_⟩
  · exact absurd (isSetBy_sizeVariable_iff.1 hset) (by decide)
  · rintro ⟨⟩

end Rampart.Config

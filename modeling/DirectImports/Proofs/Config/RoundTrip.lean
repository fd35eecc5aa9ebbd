import DirectImports.Config.Value
import Mathlib.Data.List.Nodup
import Mathlib.Logic.Relation

/-!
# Configurations are read back

A configuration is written as an object of five fields. Whoever edits that object may use the second
spelling of a field, leave out a field that says nothing but the default, and put the fields in
another order (`Config.Edit`); what results, however often this is done, is read as the same
configuration (`Config.fromValue_of_restates`). An object with a name that belongs to no field, or
with both spellings of one field, is never read.

The order does not matter since each field is read by itself: reading the value that another
configuration has for a field takes over that field and keeps the rest (`Config.withField`).
-/

namespace DirectImports

namespace ConfigField

/-- A name belongs to a field in two spellings at most, and to no other field. -/
theorem ofName?_eq_some_iff {name : String} {key : ConfigField} :
    ofName? name = some key ↔ name = key.name ∨ key.alias? = some name := by
  constructor
  · intro h
    have hname := List.find?_some h
    simp only [Bool.or_eq_true, decide_eq_true_eq] at hname
    exact hname.imp Eq.symm id
  · rintro (rfl | h)
    · cases key <;> rfl
    · cases key <;> cases h <;> rfl

theorem mem_all (key : ConfigField) : key ∈ all := by
  cases key <;> decide

/-- The names that belong to no field are those that messages do not list. -/
theorem ofName?_eq_none_iff {name : String} :
    ofName? name = none ↔ name ∉ ValueError.knownFields := by
  simp only [ofName?, all, List.find?_eq_none, ValueError.knownFields, List.mem_cons,
    List.not_mem_nil, forall_eq_or_imp, ConfigField.name, alias?, Bool.or_eq_true,
    decide_eq_true_eq, Option.some.injEq, not_or, eq_comm (b := name)]
  grind

end ConfigField

theorem Path.text_injective : Function.Injective Path.text := by
  intro p q h
  cases p
  cases q
  exact congrArg Path.mk h

namespace Config

/-! ## One field of a configuration -/

/-- The value that a configuration has for a field. -/
def fieldValue (config : Config) : ConfigField → Json.Value
  | .barrels => textsValue (config.barrels.map (·.text))
  | .root =>
    match config.root with
    | some root => .string root.text
    | none => .null
  | .style => .string config.style.name
  | .includeExtensions => textsValue config.includeExtensions
  | .exclude => textsValue config.exclude

/-- The fields of the object as which a configuration is written. -/
def fields (config : Config) : List (String × Json.Value) :=
  ConfigField.all.map fun key => (key.name, config.fieldValue key)

theorem toValue_eq (config : Config) : config.toValue = .object config.fields := rfl

/-- A configuration with one field taken over from another. -/
def withField (config source : Config) : ConfigField → Config
  | .barrels => { config with barrels := source.barrels }
  | .root => { config with root := source.root }
  | .style => { config with style := source.style }
  | .includeExtensions => { config with includeExtensions := source.includeExtensions }
  | .exclude => { config with exclude := source.exclude }

theorem fieldValue_withField (config source : Config) (key other : ConfigField) :
    (config.withField source key).fieldValue other
      = if other = key then source.fieldValue other else config.fieldValue other := by
  cases key <;> cases other <;> rfl

theorem textsValue_injective : Function.Injective textsValue := fun _ _ h =>
  List.map_injective_iff.mpr (fun _ _ h => Json.Value.string.inj h) (Json.Value.array.inj h)

/-- Nothing is lost in writing. -/
theorem eq_of_fieldValue {config other : Config}
    (h : ∀ key, config.fieldValue key = other.fieldValue key) : config = other := by
  have hbarrels : config.barrels = other.barrels :=
    List.map_injective_iff.mpr Path.text_injective (textsValue_injective (h .barrels))
  have hroot : config.root = other.root := by
    have hvalue := h .root
    unfold fieldValue at hvalue
    cases hconfig : config.root <;> cases hother : other.root <;> rw [hconfig, hother] at hvalue
    · cases hvalue
    · cases hvalue
    · exact congrArg some (Path.text_injective (Json.Value.string.inj hvalue))
  have hstyle : config.style = other.style := by
    have hname : config.style.name = other.style.name := Json.Value.string.inj (h .style)
    cases hconfig : config.style <;> cases hother : other.style <;> rw [hconfig, hother] at hname
    · exact absurd hname (by decide)
    · exact absurd hname (by decide)
  have hextensions := textsValue_injective (h .includeExtensions)
  have hexclude := textsValue_injective (h .exclude)
  cases config
  cases other
  simp only [mk.injEq]
  exact ⟨hbarrels, hroot, hstyle, hextensions, hexclude⟩

theorem readTexts_textsValue (expected : String) (texts : List String) :
    readTexts expected (textsValue texts) = .ok texts := by
  show (texts.map Json.Value.string).mapM (readText expected) = .ok texts
  induction texts with
  | nil => rfl
  | cons text texts ih =>
    rw [List.map_cons, List.mapM_cons, ih]
    rfl

/-- Reading the value that a configuration has for a field takes over that field. -/
theorem readField_fieldValue (config source : Config) (key : ConfigField) :
    readField config (source.fieldValue key) key = .ok (config.withField source key) := by
  cases key with
  | barrels =>
    show (readTexts "path string" (textsValue (source.barrels.map (·.text))) >>= fun texts =>
      Except.ok { config with barrels := texts.map Path.mk }) = _
    rw [readTexts_textsValue]
    have hback : (source.barrels.map (·.text)).map Path.mk = source.barrels := by
      rw [List.map_map]
      exact List.map_id _
    show Except.ok { config with barrels := (source.barrels.map Path.text).map Path.mk } = _
    rw [hback]
    rfl
  | root =>
    unfold fieldValue withField
    cases source.root <;> rfl
  | style =>
    unfold fieldValue withField
    cases source.style <;> rfl
  | includeExtensions =>
    show (readTexts "a string" (textsValue source.includeExtensions) >>= _) = _
    rw [readTexts_textsValue]
    rfl
  | exclude =>
    show (readTexts "a string" (textsValue source.exclude) >>= _) = _
    rw [readTexts_textsValue]
    rfl

/-! ## The fields of an object -/

/-- The fields that the names of an object belong to. -/
def keys (fields : List (String × Json.Value)) : List (Option ConfigField) :=
  fields.map fun entry => ConfigField.ofName? entry.1

/-- Each name belongs to another field, and stands with the value that the configuration has for
it. -/
structure Tells (config : Config) (fields : List (String × Json.Value)) : Prop where
  value : ∀ entry ∈ fields, ∃ key, ConfigField.ofName? entry.1 = some key
    ∧ entry.2 = config.fieldValue key
  distinct : (keys fields).Nodup

variable {config start result : Config} {fields others : List (String × Json.Value)}
  {done done' : List ConfigField}

theorem Tells.perm (h : config.Tells fields) (hperm : fields.Perm others) :
    config.Tells others :=
  ⟨fun entry hentry => h.value entry (hperm.mem_iff.mpr hentry),
    (hperm.map _).nodup_iff.mp h.distinct⟩

theorem Tells.sublist (h : config.Tells fields) (hsub : others.Sublist fields) :
    config.Tells others :=
  ⟨fun entry hentry => h.value entry (hsub.subset hentry), (hsub.map _).nodup h.distinct⟩

theorem keys_cons {entry : String × Json.Value} {key : ConfigField}
    (h : ConfigField.ofName? entry.1 = some key) :
    keys (entry :: fields) = some key :: keys fields := by
  rw [← h]
  rfl

/-- A named field is read if its name belongs to a field that was not read before, and its value can
be read for it. -/
theorem readNamed_eq_ok_iff {entry : String × Json.Value} :
    readNamed (done, start) entry = .ok (done', result)
      ↔ ∃ key, ConfigField.ofName? entry.1 = some key ∧ key ∉ done ∧ done' = key :: done
        ∧ readField start entry.2 key = .ok result := by
  unfold readNamed
  cases hname : ConfigField.ofName? entry.1 with
  | none => exact iff_of_false (fun h => by cases h) (fun ⟨_, h, _⟩ => by cases h)
  | some key =>
    by_cases hfresh : key ∈ done
    · simp [hfresh]
    · cases hvalue : readField start entry.2 key with
      | error error => simp [hfresh, hvalue, bind, Except.bind]
      | ok config => simp [hfresh, hvalue, bind, Except.bind, pure, Except.pure, eq_comm]

/-- Reading such fields takes each of them over, and keeps the rest. -/
theorem Tells.foldlM_readNamed (h : config.Tells fields) (done : List ConfigField)
    (start : Config) (hnew : ∀ key ∈ done, some key ∉ keys fields) :
    ∃ read result, fields.foldlM readNamed (done, start) = .ok (read, result)
      ∧ ∀ key, result.fieldValue key
        = if some key ∈ keys fields then config.fieldValue key else start.fieldValue key := by
  induction fields generalizing done start with
  | nil => exact ⟨done, start, rfl, fun key => by simp [keys]⟩
  | cons entry fields ih =>
    obtain ⟨key, hname, hvalue⟩ := h.value entry List.mem_cons_self
    have hkeys : keys (entry :: fields) = some key :: keys fields := keys_cons hname
    have hdistinct := h.distinct
    rw [hkeys, List.nodup_cons] at hdistinct
    rw [hkeys] at hnew
    have hread : readNamed (done, start) entry = .ok (key :: done, start.withField config key) :=
      readNamed_eq_ok_iff.mpr ⟨key, hname, fun hkey => hnew key hkey List.mem_cons_self, rfl,
        hvalue ▸ readField_fieldValue start config key⟩
    have hnext : ∀ other ∈ key :: done, some other ∉ keys fields := by
      intro other hother
      rcases List.mem_cons.mp hother with rfl | hother
      · exact hdistinct.1
      · exact fun hmem => hnew other hother (List.mem_cons_of_mem _ hmem)
    obtain ⟨read, result, hfold, hresult⟩ :=
      ih (h.sublist (List.sublist_cons_self _ _)) (key :: done) (start.withField config key) hnext
    refine ⟨read, result, ?_, fun other => ?_⟩
    · rw [List.foldlM_cons, hread]
      exact hfold
    · rw [hresult, hkeys, fieldValue_withField]
      by_cases hother : other = key <;> simp [hother]

/-- Only objects whose names belong to different fields are read. -/
theorem distinct_of_foldlM_readNamed
    (h : fields.foldlM readNamed (done, start) = .ok (done', result)) :
    none ∉ keys fields ∧ (keys fields).Nodup ∧ ∀ key ∈ done, some key ∉ keys fields := by
  induction fields generalizing done start with
  | nil => simp [keys]
  | cons entry fields ih =>
    rw [List.foldlM_cons] at h
    cases hread : readNamed (done, start) entry with
    | error error =>
      rw [hread] at h
      cases h
    | ok next =>
      obtain ⟨read, config⟩ := next
      rw [hread] at h
      obtain ⟨hknown, hdistinct, hnew⟩ := ih h
      obtain ⟨key, hname, hfresh, rfl, -⟩ := readNamed_eq_ok_iff.mp hread
      rw [keys_cons hname]
      refine ⟨by simpa using hknown, List.nodup_cons.mpr ⟨hnew key List.mem_cons_self, hdistinct⟩,
        fun other hother hmem => ?_⟩
      rcases List.mem_cons.mp hmem with heq | hmem
      · exact hfresh (Option.some.inj heq ▸ hother)
      · exact hnew other (List.mem_cons_of_mem _ hother) hmem

/-! ## Edits -/

/-- A change to the fields of an object that does not change what they say. -/
inductive Edit : List (String × Json.Value) → List (String × Json.Value) → Prop
  /-- a field gets its second spelling -/
  | rename {key : ConfigField} {second : String} (front : List (String × Json.Value))
      (value : Json.Value) (rest : List (String × Json.Value))
      (hsecond : key.alias? = some second) :
      Edit (front ++ (key.name, value) :: rest) (front ++ (second, value) :: rest)
  /-- a field that has the value of the default is left out -/
  | drop {key : ConfigField} {name : String} {value : Json.Value}
      (front rest : List (String × Json.Value)) (hname : name = key.name ∨ key.alias? = some name)
      (hdefault : default.toValue.field? key.name = some value) :
      Edit (front ++ (name, value) :: rest) (front ++ rest)
  /-- the fields are put in another order -/
  | reorder {fields others : List (String × Json.Value)} (hperm : fields.Perm others) :
      Edit fields others

/-- The fields come by edits from the object as which the configuration is written. -/
def Restates (config : Config) (fields : List (String × Json.Value)) : Prop :=
  ∃ written, config.toValue = .object written ∧ Relation.ReflTransGen Edit written fields

/-- The fields tell all of a configuration: what is left out is as in the default. -/
structure TellsAll (config : Config) (fields : List (String × Json.Value)) : Prop
    extends config.Tells fields where
  omitted : ∀ key, some key ∉ keys fields → config.fieldValue key = default.fieldValue key

theorem keys_fields (config : Config) : keys config.fields = ConfigField.all.map some := rfl

theorem tellsAll_fields (config : Config) : config.TellsAll config.fields where
  value := by
    intro entry hentry
    obtain ⟨key, -, rfl⟩ := List.mem_map.mp hentry
    exact ⟨key, ConfigField.ofName?_eq_some_iff.mpr (Or.inl rfl), rfl⟩
  distinct := by
    rw [keys_fields]
    decide
  omitted := fun key hkey => by
    rw [keys_fields] at hkey
    exact absurd (List.mem_map_of_mem (ConfigField.mem_all key)) hkey

section Edit

variable {front rest : List (String × Json.Value)} {name second : String} {value : Json.Value}
  {key : ConfigField}

/-- A second spelling belongs to the same field. -/
theorem TellsAll.rename (h : config.TellsAll (front ++ (key.name, value) :: rest))
    (hsecond : key.alias? = some second) : config.TellsAll (front ++ (second, value) :: rest) := by
  have hname : ConfigField.ofName? second = ConfigField.ofName? key.name := by
    rw [ConfigField.ofName?_eq_some_iff.mpr (Or.inr hsecond),
      ConfigField.ofName?_eq_some_iff.mpr (Or.inl rfl)]
  have hkeys : keys (front ++ (second, value) :: rest)
      = keys (front ++ (key.name, value) :: rest) := by
    simp [keys, hname]
  refine ⟨⟨fun entry hentry => ?_, hkeys ▸ h.distinct⟩, hkeys ▸ h.omitted⟩
  rcases List.mem_append.mp hentry with hfront | hentry
  · exact h.value entry (List.mem_append_left _ hfront)
  · rcases List.mem_cons.mp hentry with rfl | hrest
    · obtain ⟨other, hother, hvalue⟩ := h.value (key.name, value) (by simp)
      exact ⟨other, hname.trans hother, hvalue⟩
    · exact h.value entry (List.mem_append_right _ (List.mem_cons_of_mem _ hrest))

/-- A field with the value of the default can be left out. -/
theorem TellsAll.drop (h : config.TellsAll (front ++ (name, value) :: rest))
    (hname : ConfigField.ofName? name = some key) (hdefault : default.fieldValue key = value) :
    config.TellsAll (front ++ rest) := by
  refine ⟨h.toTells.sublist ((List.sublist_cons_self _ _).append_left front),
    fun other hother => ?_⟩
  by_cases hsame : other = key
  · obtain ⟨named, hnamed, hvalue⟩ := h.value (name, value) (by simp)
    obtain rfl : key = named := Option.some.inj (hname.symm.trans hnamed)
    rw [hsame, hdefault]
    exact hvalue.symm
  · refine h.omitted other fun hmem => hother ?_
    have hkeys : keys (front ++ (name, value) :: rest) = keys front ++ some key :: keys rest := by
      simp [keys, hname]
    rw [hkeys] at hmem
    simpa [keys, hsame] using hmem

theorem TellsAll.perm (h : config.TellsAll fields) (hperm : fields.Perm others) :
    config.TellsAll others :=
  ⟨h.toTells.perm hperm, fun key hkey => h.omitted key fun hmem =>
    hkey ((hperm.map _).mem_iff.mp hmem)⟩

end Edit

theorem field?_toValue (config : Config) (key : ConfigField) :
    config.toValue.field? key.name = some (config.fieldValue key) := by
  cases key <;> rfl

/-- An edit keeps what the fields tell. -/
theorem TellsAll.edit (h : config.TellsAll fields) (hedit : Edit fields others) :
    config.TellsAll others := by
  cases hedit with
  | rename front value rest hsecond => exact h.rename hsecond
  | drop front rest hname hdefault =>
    rw [field?_toValue] at hdefault
    exact h.drop (ConfigField.ofName?_eq_some_iff.mpr hname) (Option.some.inj hdefault)
  | reorder hperm => exact h.perm hperm

theorem Restates.tellsAll (h : config.Restates fields) : config.TellsAll fields := by
  obtain ⟨written, hwritten, hedits⟩ := h
  rw [toValue_eq] at hwritten
  cases hwritten
  induction hedits with
  | refl => exact tellsAll_fields config
  | tail _ hedit ih => exact ih.edit hedit

/-! ## Reading objects -/

/-- The fields of an object in the order in which they are read. -/
def readingOrder (fields : List (String × Json.Value)) : List (String × Json.Value) :=
  fields.mergeSort fun a b => decide (a.1 ≤ b.1)

theorem readingOrder_perm (fields : List (String × Json.Value)) :
    (readingOrder fields).Perm fields :=
  List.mergeSort_perm fields _

theorem ofValue_object (fields : List (String × Json.Value)) :
    ofValue (.object fields)
      = ((readingOrder fields).foldlM readNamed ([], default)).map (·.2) := by
  show ((readingOrder fields).foldlM readNamed ([], default) >>= fun done => Except.ok done.2) = _
  cases (readingOrder fields).foldlM readNamed ([], default) <;> rfl

/-- Fields that tell all of a configuration are read as that configuration. -/
theorem TellsAll.ofValue_eq (h : config.TellsAll fields) :
    ofValue (.object fields) = .ok config := by
  have hperm := readingOrder_perm fields
  obtain ⟨read, result, hfold, hresult⟩ :=
    (h.toTells.perm hperm.symm).foldlM_readNamed [] default (by simp)
  have hsame : result = config := by
    refine eq_of_fieldValue fun key => ?_
    rw [hresult key]
    split
    · rfl
    · next hkey =>
      exact (h.omitted key fun hmem => hkey ((hperm.map _).mem_iff.mpr hmem)).symm
  rw [ofValue_object, hfold, hsame]
  rfl

/-- A name of no field among such fields is what is wrong with the object. -/
theorem Tells.ofValue_eq_unknownField (h : config.Tells fields) {name : String} {value : Json.Value}
    (hname : ConfigField.ofName? name = none) (hperm : others.Perm ((name, value) :: fields)) :
    ofValue (.object others) = .error (.unknownField name) := by
  have horder := (readingOrder_perm others).trans hperm
  obtain ⟨front, back, hsplit⟩ :=
    List.append_of_mem (horder.mem_iff.mpr List.mem_cons_self)
  rw [hsplit] at horder
  have hrest : fields.Perm (front ++ back) := (List.perm_middle.symm.trans horder).cons_inv.symm
  -- what comes before the name is read, and then the name is met
  obtain ⟨read, result, hfold, -⟩ :=
    ((h.perm hrest).sublist (List.sublist_append_left front back)).foldlM_readNamed [] default
      (by simp)
  have hunknown : readNamed (read, result) (name, value) = .error (.unknownField name) := by
    unfold readNamed
    dsimp only
    rw [hname]
  rw [ofValue_object, hsplit, List.foldlM_append, hfold]
  show (readNamed (read, result) (name, value) >>= back.foldlM readNamed).map _ = _
  rw [hunknown]
  rfl

/-- An object is not read if a name belongs to no field, or two belong to one. -/
theorem exists_ofValue_eq_error (h : none ∈ keys fields ∨ ¬(keys fields).Nodup) :
    ∃ error, ofValue (.object fields) = .error error := by
  rw [ofValue_object]
  cases hfold : (readingOrder fields).foldlM readNamed ([], default) with
  | error error => exact ⟨error, rfl⟩
  | ok done =>
    obtain ⟨read, config⟩ := done
    obtain ⟨hknown, hdistinct, -⟩ := distinct_of_foldlM_readNamed hfold
    have hperm := (readingOrder_perm fields).map fun entry => ConfigField.ofName? entry.1
    exact (h.elim (fun hnone => hknown (hperm.mem_iff.mpr hnone))
      fun hrepeated => hrepeated (hperm.nodup_iff.mp hdistinct)).elim

/-- Both spellings of one field stand among the names. -/
def SpellsTwice (fields : List (String × Json.Value)) : Prop :=
  ∃ (key : ConfigField) (second : String), key.alias? = some second
    ∧ key.name ∈ fields.map (·.1) ∧ second ∈ fields.map (·.1)

theorem name_ne_of_alias? {key : ConfigField} {second : String} (h : key.alias? = some second) :
    key.name ≠ second := by
  cases key <;> cases h <;> decide

theorem SpellsTwice.not_nodup (h : SpellsTwice fields) : ¬(keys fields).Nodup := by
  obtain ⟨key, second, hsecond, hname, halso⟩ := h
  obtain ⟨entry, hentry, heq⟩ := List.mem_map.mp hname
  obtain ⟨other, hother, heq'⟩ := List.mem_map.mp halso
  intro hdistinct
  have hsame : entry = other := by
    refine List.inj_on_of_nodup_map hdistinct hentry hother ?_
    rw [heq, heq', ConfigField.ofName?_eq_some_iff.mpr (Or.inl rfl),
      ConfigField.ofName?_eq_some_iff.mpr (Or.inr hsecond)]
  exact name_ne_of_alias? hsecond (by rw [← heq, hsame, heq'])

/-- What comes by edits from the object as which a configuration is written is read as that
configuration. With one more field that has another name it is refused for that name; and no object
is read that has such a name, or a field in both spellings. -/
theorem fromValue_of_restates (h : config.Restates fields) :
    fromValue (.object fields) = .ok config
      ∧ (∀ (name : String) (value : Json.Value) (added : List (String × Json.Value)),
        name ∉ ValueError.knownFields → added.Perm ((name, value) :: fields) →
          fromValue (.object added)
            = .error (.invalidValue "config" (some (ValueError.unknownField name).message)))
      ∧ ∀ added : List (String × Json.Value),
        (∃ name ∈ added.map (·.1), name ∉ ValueError.knownFields) ∨ SpellsTwice added →
          ∃ error : ValueError, fromValue (.object added)
            = .error (.invalidValue "config" (some error.message)) := by
  have htells := h.tellsAll
  refine ⟨?_, fun name value added hname hadded => ?_, fun added hfault => ?_⟩
  · unfold fromValue
    rw [htells.ofValue_eq]
    rfl
  · unfold fromValue
    rw [htells.toTells.ofValue_eq_unknownField (ConfigField.ofName?_eq_none_iff.mpr hname) hadded]
    rfl
  · have hkeys : none ∈ keys added ∨ ¬(keys added).Nodup := by
      refine hfault.imp ?_ SpellsTwice.not_nodup
      rintro ⟨name, hname, hunknown⟩
      obtain ⟨entry, hentry, rfl⟩ := List.mem_map.mp hname
      exact List.mem_map.mpr ⟨entry, hentry, ConfigField.ofName?_eq_none_iff.mpr hunknown⟩
    obtain ⟨error, herror⟩ := exists_ofValue_eq_error hkeys
    refine ⟨error, ?_⟩
    unfold fromValue
    rw [herror]
    rfl

/-- A configuration that says nothing of the root, and leaves out no names of its own. -/
def brief : Config :=
  ⟨[⟨"src/ui"⟩], none, .absolute, ["tsx"], []⟩

/-- Its fields as short as possible, two in their second spelling, and the first one last. -/
def briefFields : List (String × Json.Value) :=
  [("specifier_style", .string "absolute"), ("includeExtensions", textsValue ["tsx"]),
    ("barrelFiles", textsValue ["src/ui"])]

theorem restates_brief : brief.Restates briefFields := by
  let barrels : String × Json.Value := ("barrelFiles", textsValue ["src/ui"])
  let style : String × Json.Value := ("specifier_style", .string "absolute")
  let extensions : String × Json.Value := ("includeExtensions", textsValue ["tsx"])
  let rest : List (String × Json.Value) :=
    [style, ("include_extensions", textsValue ["tsx"]), ("exclude", textsValue [])]
  have hbarrels : Edit brief.fields (barrels :: ("root", .null) :: rest) :=
    .rename [] _ _ (show ConfigField.barrels.alias? = _ from rfl)
  have hroot : Edit (barrels :: ("root", .null) :: rest) (barrels :: rest) :=
    .drop [barrels] rest (Or.inl (show _ = ConfigField.root.name from rfl)) rfl
  have hextensions :
      Edit (barrels :: rest) [barrels, style, extensions, ("exclude", textsValue [])] :=
    .rename [barrels, style] _ _ (show ConfigField.includeExtensions.alias? = _ from rfl)
  have hexclude : Edit [barrels, style, extensions, ("exclude", textsValue [])]
      [barrels, style, extensions] :=
    .drop [barrels, style, extensions] [] (Or.inl (show _ = ConfigField.exclude.name from rfl)) rfl
  have horder : Edit [barrels, style, extensions] briefFields :=
    .reorder (show ([barrels] ++ [style, extensions]).Perm ([style, extensions] ++ [barrels]) from
      List.perm_append_comm)
  exact ⟨brief.fields, rfl, .head hbarrels
    (.head hroot (.head hextensions (.head hexclude (.single horder))))⟩

theorem fromValue_of_restates_brief :
    brief.Restates briefFields ∧ fromValue (.object briefFields) = .ok brief
      ∧ fromValue (.object (("barels", .null) :: briefFields))
        = .error (.invalidValue "config" (some (ValueError.unknownField "barels").message))
      ∧ ∃ error : ValueError, fromValue (.object (("barrels", .null) :: briefFields))
        = .error (.invalidValue "config" (some error.message)) := by
  obtain ⟨hread, hunknown, hfault⟩ := fromValue_of_restates restates_brief
  refine ⟨restates_brief, hread, hunknown _ _ _ (by decide) (.refl _), hfault _ (Or.inr ?_)⟩
  exact ⟨.barrels, "barrelFiles", rfl, by decide, by decide⟩

end Config

end DirectImports

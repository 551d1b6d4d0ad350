import Chancery.Proofs.Settings.Validation
import Chancery.Settings.Lookup
import Mathlib.Tactic.Push

/-!
# A chosen settings file has to do

Settings are looked up in three places, and each has its own way of being there: a path that is
given or named by the environment counts whether or not there is such a file, while a search path
counts only if it is one. What is chosen is said first, apart from the search (`Chosen`), and what
becomes of a chosen file stage by stage (`Loads`). Loading is then nothing but the two together, and
the initial settings stand in where nothing was chosen, and nowhere else.

So a broken file is never passed over. What comes out depends on the environment and on the text of
the chosen file, and not on any other file, on the search paths behind it, or on the defaults.

A file may itself say what the initial settings are; an empty one does. They are then loaded like
any others, which is why `Settings.NeverMasks.initial_iff` has two cases. What the initial settings
replace is said by `Settings.NeverMasks.replaced_iff`.

The variable for a settings file may be set to what is no text. The search then goes on as if it
were not set, and nothing is said here of what is chosen (`Settings.IsDefinite`). All the rest
holds in every environment, and for every kind of paths.

## Main definitions

* `Settings.Chosen` — the settings file that is chosen
* `Settings.Loads` — what becomes of a file
* `Settings.NeverMasks` — what looking up settings promises

## Main results

* `Settings.existsUnique_chosen`, `Settings.loadFile_eq_iff`
* `Settings.load_neverMasks`
* `Settings.initial_of_blank_notFound_of_garbled` — what cannot be promised
-/

namespace Chancery.Settings

variable {π : Type} [PathLike π] {w w' : Surroundings π} {paths paths' : List π}
  {given given' chosen : Option π} {path : π} {result : Except (LoadError π) Settings}

/-! ### The chosen file -/

/-- The settings file that is chosen: the one given, else the one that the environment names, else
the first search path that is a file, if there is one. The search takes place only where the
variable is not set. -/
inductive Chosen (w : Surroundings π) (paths : List π) : Option π → Option π → Prop
  | given (path : π) : Chosen w paths (some path) (some path)
  | named {text : String} : w.value? pathVariable = some text →
    Chosen w paths none (some (PathLike.ofText text))
  | found {before after : List π} {path : π} : w.env.bytes? pathVariable = none →
    paths = before ++ path :: after → (∀ q ∈ before, w.isFile q = false) → w.isFile path = true →
      Chosen w paths none (some path)
  | nothing : w.env.bytes? pathVariable = none → (∀ q ∈ paths, w.isFile q = false) →
      Chosen w paths none none

/-- Whether the choice does not depend on a variable that is set to what is no text. -/
def IsDefinite (w : Surroundings π) (given : Option π) : Prop :=
  given = none → w.env.IsReadable pathVariable

theorem choosePath_of_named {text : String} (h : w.value? pathVariable = some text) :
    choosePath w paths none = some (PathLike.ofText text) := by
  rw [choosePath, h]

theorem choosePath_of_unset (h : w.env.bytes? pathVariable = none) :
    choosePath w paths none = paths.find? w.isFile := by
  have hnone : w.value? pathVariable = none := Environment.value?_of_bytes? h
  rw [choosePath, hnone, Surroundings.findFile?]

theorem chosen_choosePath (paths : List π) (h : IsDefinite w given) :
    Chosen w paths given (choosePath w paths given) := by
  cases given with
  | some path => exact .given path
  | none =>
    cases hnamed : w.value? pathVariable with
    | some text =>
      rw [choosePath_of_named hnamed]
      exact .named hnamed
    | none =>
      have hunset : w.env.bytes? pathVariable = none := h rfl hnamed
      rw [choosePath_of_unset hunset]
      cases hfind : paths.find? w.isFile with
      | none => exact .nothing hunset (by simpa using hfind)
      | some path =>
        obtain ⟨hfile, before, after, hpaths, hbefore⟩ := List.find?_eq_some_iff_append.1 hfind
        exact .found hunset hpaths (by simpa using hbefore) hfile

/-- The path that is chosen is the one that is loaded. -/
theorem Chosen.choosePath_eq (h : Chosen w paths given chosen) :
    choosePath w paths given = chosen := by
  cases h with
  | given path => rfl
  | named hnamed => exact choosePath_of_named hnamed
  | found hunset hpaths hbefore hfile =>
    rw [choosePath_of_unset hunset]
    exact List.find?_eq_some_iff_append.2 ⟨hfile, _, _, hpaths, by simpa using hbefore⟩
  | nothing hunset hfiles =>
    rw [choosePath_of_unset hunset]
    exact List.find?_eq_none.2 (by simpa using hfiles)

theorem existsUnique_chosen (paths : List π) (h : IsDefinite w given) :
    ∃! chosen, Chosen w paths given chosen :=
  ⟨_, chosen_choosePath paths h, fun _ hchosen => hchosen.choosePath_eq.symm⟩

/-! ### What becomes of it -/

/-- The text of a file, its variables expanded. -/
structure HasText (w : Surroundings π) (path : π) (written text : String) : Prop where
  isRead : w.readText? path = some written
  isExpanded : Substitution.expand w.value? written = .ok text

/-- The settings in a text, if it is a document of settings. -/
def settings? (text : String) : Option Settings := (Toml.parse? text).bind (Settings.decode? true)

/-- What becomes of a file. Each stage is reached only if the ones in front of it went well. -/
inductive Loads (w : Surroundings π) (path : π) : Except (LoadError π) Settings → Prop
  | unreadable : w.readText? path = none → Loads w path (.error (.unreadable path))
  | unset {written : String} {reason : Substitution.Unset} : w.readText? path = some written →
    Substitution.expand w.value? written = .error reason → Loads w path (.error (.unset reason))
  | unsupported {written text other : String} : HasText w path written text →
    PathLike.extension? path = some other → other ≠ "toml" →
      Loads w path (.error (.unsupported other))
  | malformed {written text : String} : HasText w path written text →
    (∀ e ∈ PathLike.extension? path, e = "toml") → settings? text = none →
      Loads w path (.error .malformed)
  | invalid {written text : String} {s : Settings} {reason : InvalidSettings} :
    HasText w path written text → (∀ e ∈ PathLike.extension? path, e = "toml") →
      settings? text = some s → s.validate = .error reason →
        Loads w path (.error (.invalid reason))
  | accepted {written text : String} {s : Settings} : HasText w path written text →
    (∀ e ∈ PathLike.extension? path, e = "toml") → settings? text = some s → s.validate = .ok () →
      Loads w path (.ok s)

omit [PathLike π] in
theorem ofDocument_of_other {other : String} (h : other ≠ "toml") (text : String) :
    ofDocument (some other) text = .error (.unsupported other : LoadError π) := by
  simp [ofDocument, Option.filter_some, h]

omit [PathLike π] in
theorem ofDocument_of_supported {extension : Option String} (h : ∀ e ∈ extension, e = "toml")
    (text : String) :
    ofDocument extension text =
      (settings? text).elim (.error (.malformed : LoadError π)) .ok := by
  have hnone : extension.filter (· ≠ "toml") = none := by simpa [Option.filter_eq_none_iff] using h
  rw [ofDocument, hnone, settings?]
  cases (Toml.parse? text).bind (Settings.decode? true) <;> rfl

theorem loadFile_of_hasText {written text : String} (h : HasText w path written text) :
    loadFile w path = (ofDocument (PathLike.extension? path) text >>= accept) := by
  simp only [loadFile, h.isRead, h.isExpanded]

theorem loadFile_of_settings {written text : String} {s : Settings}
    (h : HasText w path written text) (hext : ∀ e ∈ PathLike.extension? path, e = "toml")
    (hs : settings? text = some s) : loadFile w path = accept s := by
  rw [loadFile_of_hasText h, ofDocument_of_supported hext, hs]
  rfl

theorem loads_loadFile (w : Surroundings π) (path : π) : Loads w path (loadFile w path) := by
  cases hread : w.readText? path with
  | none => simpa [loadFile, hread] using Loads.unreadable hread
  | some written =>
    cases hexpand : Substitution.expand w.value? written with
    | error reason => simpa [loadFile, hread, hexpand] using Loads.unset hread hexpand
    | ok text =>
      have htext : HasText w path written text := ⟨hread, hexpand⟩
      by_cases hext : ∀ e ∈ PathLike.extension? path, e = "toml"
      · cases hsettings : settings? text with
        | none =>
          rw [loadFile_of_hasText htext, ofDocument_of_supported hext, hsettings]
          exact .malformed htext hext hsettings
        | some s =>
          rw [loadFile_of_settings htext hext hsettings, accept]
          cases hvalid : s.validate with
          | error reason => exact .invalid htext hext hsettings hvalid
          | ok => exact .accepted htext hext hsettings hvalid
      · push Not at hext
        obtain ⟨other, hother, hne⟩ := hext
        rw [loadFile_of_hasText htext, Option.mem_def.1 hother, ofDocument_of_other hne]
        exact .unsupported htext hother hne

/-- **Loading a file comes to what becomes of it.** -/
theorem loadFile_eq_iff : loadFile w path = result ↔ Loads w path result := by
  constructor
  · rintro rfl
    exact loads_loadFile w path
  · intro h
    cases h with
    | unreadable hread => simp [loadFile, hread]
    | unset hread hexpand => simp [loadFile, hread, hexpand]
    | unsupported htext hext hne =>
      rw [loadFile_of_hasText htext, hext, ofDocument_of_other hne]
      rfl
    | malformed htext hext hsettings =>
      rw [loadFile_of_hasText htext, ofDocument_of_supported hext, hsettings]
      rfl
    | invalid htext hext hsettings hvalid =>
      rw [loadFile_of_settings htext hext hsettings, accept, hvalid]
    | accepted htext hext hsettings hvalid =>
      rw [loadFile_of_settings htext hext hsettings, accept, hvalid]

theorem loadFile_ne_notFound : loadFile w path ≠ .error .notFound := fun h => by
  cases loadFile_eq_iff.1 h

/-! ### Looking up -/

theorem load_of_chosen (h : Chosen w paths given (some path)) :
    load w paths given = loadFile w path := by
  rw [load, h.choosePath_eq]

theorem load_eq_notFound_iff (h : IsDefinite w given) :
    load w paths given = .error .notFound ↔ Chosen w paths given none := by
  have hchosen := chosen_choosePath paths h
  rw [load]
  constructor
  · intro hload
    cases hpath : choosePath w paths given with
    | none => rwa [hpath] at hchosen
    | some path =>
      rw [hpath] at hload
      exact absurd hload loadFile_ne_notFound
  · intro hnone
    rw [hnone.choosePath_eq]

theorem loadOrInitial_of_notFound (h : load w paths given = .error .notFound) :
    loadOrInitial w paths given = .ok .initial := by
  rw [loadOrInitial, h]

theorem loadOrInitial_of_ne (h : load w paths given ≠ .error .notFound) :
    loadOrInitial w paths given = load w paths given := by
  rw [loadOrInitial]
  split
  · exact absurd ‹_› h
  · rfl

theorem loadOrInitial_eq_initial_iff : loadOrInitial w paths given = .ok .initial ↔
    load w paths given = .error .notFound ∨ load w paths given = .ok .initial := by
  by_cases h : load w paths given = .error .notFound
  · simp [h, loadOrInitial_of_notFound h]
  · simp [h, loadOrInitial_of_ne h]

/-- The outcome is another one exactly where nothing was found. -/
theorem loadOrInitial_ne_load_iff :
    loadOrInitial w paths given ≠ load w paths given ↔ load w paths given = .error .notFound := by
  constructor
  · intro hother
    by_contra h
    exact hother (loadOrInitial_of_ne h)
  · intro h
    rw [loadOrInitial_of_notFound h, h]
    simp

/-- What becomes of a file depends on its text and on the environment. -/
theorem loadFile_congr (henv : w.env = w'.env) (htext : w.readText? path = w'.readText? path) :
    loadFile w path = loadFile w' path := by
  have hvalue : w.value? = w'.value? := congrArg Environment.value? henv
  rw [loadFile, loadFile, htext, hvalue]

theorem validate_of_load {s : Settings} (h : load w paths given = .ok s) : s.validate = .ok () := by
  rw [load] at h
  split at h
  · cases loadFile_eq_iff.1 h with
    | accepted _ _ _ hvalid => exact hvalid
  · cases h

theorem validate_initial : initial.validate = .ok () :=
  validate_eq_ok_iff_problems.2 (by decide +kernel)

theorem validate_of_loadOrInitial {s : Settings} (h : loadOrInitial w paths given = .ok s) :
    s.validate = .ok () := by
  by_cases hfound : load w paths given = .error .notFound
  · rw [loadOrInitial_of_notFound hfound] at h
    cases h
    exact validate_initial
  · rw [loadOrInitial_of_ne hfound] at h
    exact validate_of_load h

/-- What looking up settings promises. What is chosen is left open where the choice depends on a
variable that is set to no text. -/
structure NeverMasks (w : Surroundings π) (paths : List π) (given : Option π) : Prop where
  /-- One file is chosen, or none is. -/
  chosen : IsDefinite w given → ∃! chosen, Chosen w paths given chosen
  /-- A chosen file is loaded, and what becomes of it is the outcome. -/
  load_iff : ∀ path, Chosen w paths given (some path) → ∀ result,
    load w paths given = result ↔ Loads w path result
  notFound_iff : IsDefinite w given →
    (load w paths given = .error .notFound ↔ Chosen w paths given none)
  /-- The initial settings take the place of what was not found, and of nothing else. -/
  initial : load w paths given = .error .notFound → loadOrInitial w paths given = .ok .initial
  otherwise : load w paths given ≠ .error .notFound →
    loadOrInitial w paths given = load w paths given
  replaced_iff : loadOrInitial w paths given ≠ load w paths given ↔
    load w paths given = .error .notFound
  /-- The initial settings come out where nothing was found or where a file spells them out. -/
  initial_iff : loadOrInitial w paths given = .ok .initial ↔
    load w paths given = .error .notFound ∨ load w paths given = .ok .initial
  /-- Nothing but the chosen file and the environment has a say. -/
  alone : ∀ path w' paths' given', Chosen w paths given (some path) →
    Chosen w' paths' given' (some path) → w.env = w'.env → w.readText? path = w'.readText? path →
      load w paths given = load w' paths' given' ∧
        loadOrInitial w paths given = loadOrInitial w' paths' given'
  valid : ∀ s, load w paths given = .ok s ∨ loadOrInitial w paths given = .ok s →
    s.validate = .ok ()

/-- **Looking up settings never masks a broken file.** -/
theorem load_neverMasks (w : Surroundings π) (paths : List π) (given : Option π) :
    NeverMasks w paths given where
  chosen := existsUnique_chosen paths
  load_iff path h result := by rw [load_of_chosen h, loadFile_eq_iff]
  notFound_iff := load_eq_notFound_iff
  initial := loadOrInitial_of_notFound
  otherwise := loadOrInitial_of_ne
  replaced_iff := loadOrInitial_ne_load_iff
  initial_iff := loadOrInitial_eq_initial_iff
  alone path w' paths' given' h h' henv htext := by
    have hload : load w paths given = load w' paths' given' := by
      rw [load_of_chosen h, load_of_chosen h', loadFile_congr henv htext]
    exact ⟨hload, by rw [loadOrInitial, loadOrInitial, hload]⟩
  valid s h := h.elim validate_of_load validate_of_loadOrInitial

/-- Surroundings with two settings files, the first of which refers to a variable that is not
set. -/
def shadowing : Surroundings where
  env := ⟨[Environment.entry "HOME" "/root"]⟩
  isFile path := path = "office.toml" || path = "spare.toml"
  read? path :=
    if path = "office.toml" then some "url = \"$\x7bOFFICE_DB\x7d\"".toUTF8
    else if path = "spare.toml" then some "".toUTF8
    else none

/-- Search paths, of which the first is no file. -/
def shadowingPaths : List String := ["absent.toml", "office.toml", "spare.toml"]

/-- The file that cannot be expanded is not passed over, neither for the one behind it nor for the
initial settings. -/
theorem load_neverMasks_of_shadowing :
    Chosen shadowing shadowingPaths none (some "office.toml") ∧
      load shadowing shadowingPaths none = .error (.unset ⟨"OFFICE_DB", none⟩) ∧
      loadOrInitial shadowing shadowingPaths none = .error (.unset ⟨"OFFICE_DB", none⟩) := by
  have h := load_neverMasks shadowing shadowingPaths none
  have hpaths : shadowingPaths = ["absent.toml"] ++ "office.toml" :: ["spare.toml"] := rfl
  have hchosen : Chosen shadowing shadowingPaths none (some "office.toml") :=
    .found (by decide +kernel) hpaths (by decide +kernel) (by decide +kernel)
  have hread : shadowing.readText? "office.toml" = some "url = \"$\x7bOFFICE_DB\x7d\"" := by
    decide +kernel
  have hexpand : Substitution.expand shadowing.value? "url = \"$\x7bOFFICE_DB\x7d\"" =
      .error ⟨"OFFICE_DB", none⟩ := by
    decide +kernel
  have hload := (h.load_iff _ hchosen _).2 (.unset hread hexpand)
  have hne : load shadowing shadowingPaths none ≠ .error .notFound := by
    rw [hload]
    simp
  exact ⟨hchosen, hload, (h.otherwise hne).trans hload⟩

/-- Surroundings with one settings file, in which nothing is written. -/
def blank : Surroundings where
  env := ⟨[]⟩
  isFile path := path = "office.toml"
  read? path := if path = "office.toml" then some "".toUTF8 else none

/-- Surroundings without a file, where the variable for one is set to a byte that is no text. -/
def garbled : Surroundings where
  env := ⟨[Environment.start pathVariable ++ [0xff]]⟩
  isFile _ := false
  read? _ := none

/-- **The initial settings need not mean that nothing was found**, since an empty file says just
that; and nothing may be found where the variable for a file is set. -/
theorem initial_of_blank_notFound_of_garbled :
    (Chosen blank ["office.toml"] none (some "office.toml") ∧
      load blank ["office.toml"] none = .ok .initial ∧
      ¬ (loadOrInitial blank ["office.toml"] none = .ok .initial ↔
        load blank ["office.toml"] none = .error .notFound)) ∧
    garbled.env.bytes? pathVariable = some [0xff] ∧
      load garbled [] none = .error .notFound := by
  have hchosen : Chosen blank ["office.toml"] none (some "office.toml") :=
    .found (by decide +kernel) (List.nil_append _).symm (by simp) (by decide +kernel)
  have hload : load blank ["office.toml"] none = .ok .initial := by
    rw [load_of_chosen hchosen, loadFile_eq_iff]
    have hread : blank.readText? "office.toml" = some "" := by decide +kernel
    have hexpand : Substitution.expand blank.value? "" = .ok "" := by decide +kernel
    have hextension : PathLike.extension? "office.toml" = some "toml" := by decide +kernel
    have hsettings : settings? "" = some .initial := by rfl
    exact .accepted ⟨hread, hexpand⟩ (by simp [hextension]) hsettings validate_initial
  refine ⟨⟨hchosen, hload, ?_⟩, by decide +kernel, ?_⟩
  · rw [loadOrInitial_eq_initial_iff, hload]
    simp
  · have hnone : garbled.value? pathVariable = none := by decide +kernel
    rw [load, choosePath, hnone]
    rfl

end Chancery.Settings

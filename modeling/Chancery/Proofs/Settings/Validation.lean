import Chancery.Proofs.Journal.Pages
import Chancery.Settings.Validation
import Mathlib.Data.List.Forall2

/-!
# What validation finds, and what it is good for

Settings are validated section by section, and every section with a problem is reported, in the
order of the sections. What validation lets pass can be used. The database section is looked at
twice, when settings are validated and when a database is opened, and neither check calls the
other; the two agree but for the number of connections, of which opening asks nothing
(`DatabaseSettings.problem?_eq_none_iff`). So opening fails only where validation would have
said so, and the problem that is reported is one of the database section.

A page that is asked for is used as it is if the settings allow it, and otherwise replaced by one
that they allow. It takes sound settings for this, since the default and the largest size are not
compared again.

## Main definitions

* `SettingsSection`, `SettingsSection.problem?`, `SettingsSection.failing`
* `WorkflowSettings.IsPaging` — a page and a page size that may be used
* `Settings.IsJudged` — what validation says, and what follows from it

## Main results

* `DatabaseSettings.connect_eq_ok_iff`, `DatabaseSettings.problem?_eq_none_iff`
* `SettingsSection.forall₂_failing_problems` — one problem for each failing section
* `Settings.validate_isJudged`
-/

namespace Chancery

/-! ### The database section -/

namespace DatabaseSettings

variable {d : DatabaseSettings} {c : Connection}

/-- **A database can be used** if its address and its schema, each by itself, are accepted. -/
theorem connect_eq_ok_iff : d.connect = .ok c ↔
    Backend.ofUrl d.url = .ok c.backend ∧ d.schema = c.schema ∧
      ∀ name ∈ d.schema, SchemaName.check name = .ok () := by
  obtain ⟨backend, schema⟩ := c
  unfold connect
  cases Backend.ofUrl d.url with
  | error e => simp [bind, Except.bind]
  | ok found =>
    cases d.schema with
    | none => simp [bind, Except.bind, pure, Except.pure]
    | some name =>
      cases hname : SchemaName.check name with
      | error e => simp [bind, Except.bind, hname, throw, throwThe, MonadExceptOf.throw]
      | ok => simp [bind, Except.bind, pure, Except.pure, hname]

/-- **The database section has no problem** exactly if the database can be used and the number of
connections is one that is allowed. -/
theorem problem?_eq_none_iff : d.problem? = none ↔
    d.connect = .ok ⟨.sqlite, d.schema⟩ ∧ 1 ≤ d.poolSize ∧ d.poolSize ≤ maxPoolSize := by
  rw [connect_eq_ok_iff, problem?]
  cases Backend.ofUrl d.url with
  | error e => simp
  | ok found =>
    cases found
    by_cases hsize : d.poolSize = 0 ∨ maxPoolSize < d.poolSize
    · have hnot : ¬ (1 ≤ d.poolSize ∧ d.poolSize ≤ maxPoolSize) := by omega
      simp [if_pos hsize, hnot]
    · have hbounds : 1 ≤ d.poolSize ∧ d.poolSize ≤ maxPoolSize := by omega
      simp only [if_neg hsize]
      cases d.schema with
      | none => simp [hbounds]
      | some name => cases hname : SchemaName.check name <;> simp [hname, hbounds]

end DatabaseSettings

/-! ### Paging -/

namespace WorkflowSettings

variable {w : WorkflowSettings}

/-- A page and a page size that may be used where these are asked for: within the bounds, and what
is asked for where that is within them already. -/
structure IsPaging (w : WorkflowSettings) (page pageSize : Option Int) (used : Int × Int) :
    Prop where
  one_le_page : 1 ≤ used.1
  one_le_pageSize : 1 ≤ used.2
  pageSize_le : used.2 ≤ w.maxPageSize
  page_eq : ∀ p ∈ page, 1 ≤ p → used.1 = p
  pageSize_eq : ∀ n ∈ pageSize, 1 ≤ n → n ≤ w.maxPageSize → used.2 = n

theorem isPaging_normalizePaging (h : w.problem? = none) (page pageSize : Option Int) :
    w.IsPaging page pageSize (w.normalizePaging page pageSize) where
  one_le_page := w.one_le_page page pageSize
  one_le_pageSize := one_le_pageSize h page pageSize
  pageSize_le := Int.min_le_right _ _
  page_eq := by
    rintro p rfl hp
    simp [normalizePaging, Option.filter_some, hp]
  pageSize_eq := by
    rintro n rfl hn hmax
    simp [normalizePaging, Option.filter_some, hn, hmax]

end WorkflowSettings

/-! ### Sections -/

/-- The sections of settings. -/
inductive SettingsSection where
  | database
  | workflow
  | logging
  deriving DecidableEq

namespace SettingsSection

variable {s : Settings} {x y : SettingsSection}

/-- The sections, in their order. -/
def all : List SettingsSection := [.database, .workflow, .logging]

theorem mem_all (x : SettingsSection) : x ∈ all := by cases x <;> decide

/-- The first problem of a section, looked at by itself. -/
def problem? (s : Settings) : SettingsSection → Option SettingsProblem
  | .database => s.database.problem?
  | .workflow => s.workflow.problem?
  | .logging => s.logging.problem?

/-- The sections with a problem, in their order. -/
def failing (s : Settings) : List SettingsSection := all.filter fun x => (problem? s x).isSome

theorem mem_failing : x ∈ failing s ↔ (problem? s x).isSome := by
  simp [failing, mem_all]

/-- What a list is filtered by and what it is mapped to stand side by side. -/
theorem forall₂_filter_filterMap {α β : Type} (f : α → Option β) (l : List α) :
    List.Forall₂ (fun a b => f a = some b) (l.filter fun a => (f a).isSome) (l.filterMap f) := by
  induction l with
  | nil => exact .nil
  | cons a l ih =>
    cases ha : f a with
    | none => simpa [ha] using ih
    | some b => simpa [ha] using ih

/-- **The problems are those of the failing sections**, one for each, in the order of the
sections. -/
theorem forall₂_failing_problems (s : Settings) :
    List.Forall₂ (fun x p => problem? s x = some p) (failing s) s.problems :=
  forall₂_filter_filterMap (problem? s) all

end SettingsSection

/-! ### Validation -/

/-- The problems that refused settings are refused for. -/
def InvalidSettings.problems : InvalidSettings → List SettingsProblem
  | .single p => [p]
  | .multiple ps => ps

namespace Settings

open SettingsSection

variable {s : Settings} {x y : SettingsSection} {p : SettingsProblem} {reason : InvalidSettings}

theorem problems_eq (s : Settings) : s.problems = all.filterMap (problem? s) := rfl

theorem problems_of_validate (h : s.validate = .error reason) : reason.problems = s.problems := by
  unfold validate at h
  split at h
  · cases h
  · rename_i hp
    cases h
    exact hp.symm
  · cases h
    rfl

theorem validate_eq_ok_iff_problems : s.validate = .ok () ↔ s.problems = [] := by
  unfold validate
  split <;> simp_all

/-- Settings are accepted if no section has a problem. -/
theorem validate_eq_ok_iff : s.validate = .ok () ↔ ∀ x, problem? s x = none := by
  rw [validate_eq_ok_iff_problems]
  constructor
  · intro hnone x
    have hfailing := forall₂_failing_problems s
    rw [hnone, List.forall₂_nil_right_iff] at hfailing
    have hx : x ∉ failing s := by simp [hfailing]
    simpa [mem_failing] using hx
  · intro h
    have hnone : failing s = [] := by simp [failing, h]
    have hfailing := forall₂_failing_problems s
    rwa [hnone, List.forall₂_nil_left_iff] at hfailing

theorem exists_validate_eq_error_iff :
    (∃ reason, s.validate = .error reason) ↔ ∃ x, (problem? s x).isSome := by
  have hnot : (∃ reason, s.validate = .error reason) ↔ ¬ s.validate = .ok () := by
    cases s.validate <;> simp
  rw [hnot, validate_eq_ok_iff]
  simp [Option.ne_none_iff_isSome]

/-- The problem of a section is reported, alone or among others. -/
theorem exists_mem_problems (h : problem? s x = some p) :
    ∃ reason, s.validate = .error reason ∧ p ∈ reason.problems := by
  have hfails : ∃ x, (problem? s x).isSome := ⟨x, by rw [h]; rfl⟩
  obtain ⟨reason, hreason⟩ := exists_validate_eq_error_iff.2 hfails
  refine ⟨reason, hreason, ?_⟩
  rw [problems_of_validate hreason, problems_eq, List.mem_filterMap]
  exact ⟨x, x.mem_all, h⟩

/-- The problem of the only section that has one is reported as it is. -/
theorem validate_of_alone (h : problem? s x = some p) (halone : ∀ y, y ≠ x → problem? s y = none) :
    s.validate = .error (.single p) := by
  have hproblems : s.problems = [p] := by
    rw [problems_eq]
    cases x <;> simp_all [all]
  rw [validate, hproblems]

/-- The problems of several sections are reported together. -/
theorem validate_of_ne (hx : (problem? s x).isSome) (hy : (problem? s y).isSome) (hne : x ≠ y) :
    s.validate = .error (.multiple s.problems) := by
  have hboth : [x, y] ⊆ failing s := by simp [mem_failing, hx, hy]
  have hlength : 2 ≤ (failing s).length :=
    (List.subperm_of_subset (by simpa using hne) hboth).length_le
  rw [(forall₂_failing_problems s).length_eq] at hlength
  unfold validate
  split <;> simp_all

/-- What validation says of settings, and what follows from it. -/
structure IsJudged (s : Settings) : Prop where
  refused_iff : (∃ reason, s.validate = .error reason) ↔ ∃ x, (problem? s x).isSome
  alone : ∀ x p, problem? s x = some p → (∀ y, y ≠ x → problem? s y = none) →
    s.validate = .error (.single p)
  /-- Several sections are reported together, one problem for each, in their order. -/
  together : ∀ x y, x ≠ y → (problem? s x).isSome → (problem? s y).isSome →
    ∃ ps, s.validate = .error (.multiple ps) ∧
      List.Forall₂ (fun x p => problem? s x = some p) (failing s) ps
  /-- The database section fails where the database cannot be used, and for the number of
  connections besides. -/
  database_iff : problem? s .database = none ↔
    s.database.connect = .ok ⟨.sqlite, s.database.schema⟩ ∧
      1 ≤ s.database.poolSize ∧ s.database.poolSize ≤ DatabaseSettings.maxPoolSize
  /-- The database of accepted settings can be used: its kind is known, its schema accepted. -/
  connects : s.validate = .ok () →
    s.database.connect = .ok ⟨.sqlite, s.database.schema⟩ ∧
      Backend.ofUrl s.database.url = .ok .sqlite ∧
      ∀ name ∈ s.database.schema, SchemaName.check name = .ok ()
  pages : s.validate = .ok () → ∀ page pageSize,
    s.workflow.IsPaging page pageSize (s.workflow.normalizePaging page pageSize)
  /-- A database that cannot be used is reported as a problem of its section. -/
  unusable : ∀ e, s.database.connect = .error e →
    ∃ reason p, s.validate = .error reason ∧ problem? s .database = some p ∧ p ∈ reason.problems

/-- **Validation reports every bad section, and what it accepts can be used.** -/
theorem validate_isJudged (s : Settings) : IsJudged s where
  refused_iff := exists_validate_eq_error_iff
  alone _ _ := validate_of_alone
  together _ _ hne hx hy := ⟨_, validate_of_ne hx hy hne, forall₂_failing_problems s⟩
  database_iff := DatabaseSettings.problem?_eq_none_iff
  connects h := by
    have hconnect := (DatabaseSettings.problem?_eq_none_iff.1 (validate_eq_ok_iff.1 h .database)).1
    obtain ⟨hurl, -, hschema⟩ := DatabaseSettings.connect_eq_ok_iff.1 hconnect
    exact ⟨hconnect, hurl, hschema⟩
  pages h := WorkflowSettings.isPaging_normalizePaging (validate_eq_ok_iff.1 h .workflow)
  unusable e h := by
    obtain ⟨p, hp⟩ : ∃ p, problem? s .database = some p := by
      refine Option.ne_none_iff_exists'.1 fun hnone => ?_
      have hconnect := (DatabaseSettings.problem?_eq_none_iff.1 hnone).1
      rw [h] at hconnect
      cases hconnect
    obtain ⟨reason, hreason, hmem⟩ := exists_mem_problems hp
    exact ⟨reason, p, hreason, hp, hmem⟩

/-- Settings with an address that nothing is known of and a log level that there is not. -/
def loud : Settings :=
  { initial with
    database := { DatabaseSettings.initial with url := "mysql://localhost/docflow" }
    logging := { level := "loud" } }

/-- Both bad sections are reported, and the database cannot be used. -/
theorem validate_isJudged_of_loud :
    failing loud = [.database, .logging] ∧
      loud.database.connect = .error (.unknownBackend "mysql://localhost/docflow") ∧
      (∃ ps, loud.validate = .error (.multiple ps) ∧
        List.Forall₂ (fun x p => problem? loud x = some p) [.database, .logging] ps) ∧
      ∃ reason p, loud.validate = .error reason ∧ problem? loud .database = some p ∧
        p ∈ reason.problems := by
  have hfailing : failing loud = [.database, .logging] := by decide +kernel
  have hconnect : loud.database.connect = .error (.unknownBackend "mysql://localhost/docflow") := by
    decide +kernel
  have h := validate_isJudged loud
  have htogether := h.together .database .logging (by decide) (by decide +kernel)
    (by decide +kernel)
  rw [hfailing] at htogether
  exact ⟨hfailing, hconnect, htogether, h.unusable _ hconnect⟩

end Settings

end Chancery

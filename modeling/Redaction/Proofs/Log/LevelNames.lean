import Redaction.Proofs.Log.Feedback
import Redaction.Settings.Basic

/-!
# Level names

A level is given to the log by name, and names are typed by people.  A name that means no level should do no harm:
the log is set up with the default level.  Whether it does depends on what else has a name, as names are not looked
up among levels alone.

* `levelNamed` — the level of a name, or the default.
* `takenNames` — the names in the same place that are something else.
* **`levelOf_eq`** — a name means its level unless it is taken.
* `Settings.lookup_logLevel` — a level that is read from settings is the name of one, in upper case.
* **`configure_sets`** — what setting up does, for every name and every log.
* **`not_configure_sets_taken`** — a name that is taken stops it.
-/

namespace Redaction

/-- A name in upper case. -/
def upperName (name : String) : String :=
  String.ofList (Text.Case.upperText name.toList)

/-- The level that a name has in upper case, and the default level if it is none of the names of levels. -/
def levelNamed (name : String) : Int :=
  (levelNames.lookup (upperName name)).getD defaultLevel

/-- The names that something else has than a level, and what comes of it. -/
def takenNames : List (String × LevelFault) :=
  [("BASIC_FORMAT", .template), ("_STYLES", .styles)]

/-! ## Names -/

/-- The names of levels are in upper case. -/
lemma upperName_of_lookup {name : String} {level : Int} (h : levelNames.lookup name = some level) :
    upperName name = name := by
  have hall : ∀ entry ∈ levelNames, upperName entry.1 = entry.1 := by decide +kernel
  obtain ⟨before, after, hsplit, -⟩ := List.lookup_eq_some_iff.mp h
  exact hall (name, level) (hsplit ▸ List.mem_append_right _ List.mem_cons_self)

/-- A name of a level is not taken. -/
lemma lookup_takenNames_of_level {name : String} {level : Int} (h : levelNames.lookup name = some level) :
    takenNames.lookup name = none := by
  have hall : ∀ entry ∈ levelNames, takenNames.lookup entry.1 = none := by decide
  obtain ⟨before, after, hsplit, -⟩ := List.lookup_eq_some_iff.mp h
  exact hall (name, level) (hsplit ▸ List.mem_append_right _ List.mem_cons_self)

/-- **What a name means**: its level or the default one, unless it is taken. -/
theorem levelOf_eq (name : String) :
    levelOf name = match takenNames.lookup (upperName name) with
      | none => .ok (levelNamed name)
      | some fault => .error fault := by
  rw [levelOf, levelNamed, ← upperName]
  cases hlevel : levelNames.lookup (upperName name) with
  | some level => simp only [lookup_takenNames_of_level hlevel, Option.getD_some]
  | none =>
      by_cases htemplate : upperName name = "BASIC_FORMAT"
      · simp [htemplate, takenNames]
      · by_cases hstyles : upperName name = "_STYLES"
        · rw [if_neg htemplate, if_pos hstyles, hstyles]
          rfl
        · have hfree : takenNames.lookup (upperName name) = none := by
            rw [takenNames, List.lookup_eq_none_iff]
            simp [htemplate, hstyles]
          simp only [htemplate, hstyles, if_false, hfree, Option.getD_none]

/-! ## Settings -/

namespace Settings

/-- A level that was accepted is the name of one. -/
lemma isSome_of_levelOf {value : Value} {name : String} (h : levelOf value = .ok name) :
    (levelNames.lookup name).isSome := by
  obtain ⟨text, -, hname⟩ := exists_of_bind h
  by_cases hknown : (levelNames.lookup (levelName text)).isSome
  · rw [if_pos hknown] at hname
    exact Except.ok.inj hname ▸ hknown
  · rw [if_neg hknown] at hname
    cases hname

/-- **A level that is read from settings** is the name of one, wherever it came from. -/
theorem lookup_logLevel {sources : Sources} {settings : Settings} (h : read sources = .ok settings) :
    ∃ level, levelNames.lookup settings.logLevel = some level := by
  rw [← Option.isSome_iff_exists]
  have hlevel : setting sources "log_level" "INFO" levelOf = .ok settings.logLevel := by
    rw [read] at h
    cases hpath : setting sources "policy_path" (none : Option FilePath) pathOf <;>
      cases hname : setting sources "log_level" "INFO" levelOf <;>
      cases hstructured : setting sources "structured_logging" true truthOf <;>
      simp only [hpath, hname, hstructured, reduceCtorEq, Except.ok.injEq] at h
    rw [← h]
  rw [setting] at hlevel
  cases hvalue : sources.value? "log_level" with
  | none =>
      rw [hvalue] at hlevel
      rw [← Except.ok.inj hlevel]
      decide
  | some value =>
      rw [hvalue] at hlevel
      exact isSome_of_levelOf (ok_of_mapError hlevel)

end Settings

/-! ## Setting up -/

namespace Log

/-- The log with a level and a single sink of this level, which writes in a layout and has no filters. -/
def atLevel (log : Log) (level : Int) (structured : Bool) : Log :=
  { log with level, sinks := [{ level, layout := some (if structured then .structured else .plain) }] }

variable {name : String}

/-- A name that is free sets the log up. -/
lemma configure_of_free (h : takenNames.lookup (upperName name) = none) (time version : String)
    (structured : Bool) (log : Log) :
    ∃ text, log.configure time version name structured = (.ok text, log.atLevel (levelNamed name) structured) := by
  have hlevel : levelOf name = .ok (levelNamed name) := by rw [levelOf_eq, h]
  have hset := Logging.configure_of_levelOf hlevel time version structured log
  have hanswer : ∃ text, (log.configure time version name structured).1 = .ok text := by
    rw [configure, hlevel]
    exact ⟨_, rfl⟩
  obtain ⟨text, htext⟩ := hanswer
  exact ⟨text, Prod.ext htext hset⟩

/-- A name that is taken changes nothing. -/
lemma configure_of_taken {fault : LevelFault} (h : takenNames.lookup (upperName name) = some fault)
    (time version : String) (structured : Bool) (log : Log) :
    log.configure time version name structured = (.error fault, log) := by
  rw [configure, levelOf_eq, h]

/-- Nothing shows of what the log was set up to before, in what it answers or in what it is. -/
lemma configure_atLevel (time version name : String) (structured : Bool) (log : Log) (level : Int)
    (structured' : Bool) (h : takenNames.lookup (upperName name) = none) :
    (log.atLevel level structured').configure time version name structured
      = log.configure time version name structured := by
  rw [configure, configure, levelOf_eq, h]
  rfl

/-- **What setting up does.**  It answers if and only if the name is not taken.  Then the log has a single sink,
which writes in the layout that was asked for; sink and log have the level of the name, and the default level if
it is the name of none.  So it does not matter how the log was set up before.  A name that is taken changes nothing.
Whatever settings are read, their level is the name of one, and the log is set up with just that level. -/
theorem configure_sets (time version name : String) (structured : Bool) (log : Log) :
    ((∃ text, (log.configure time version name structured).1 = .ok text) ↔
      takenNames.lookup (upperName name) = none)
    ∧ (takenNames.lookup (upperName name) = none →
      (log.configure time version name structured).2 = log.atLevel (levelNamed name) structured
        ∧ ∀ time' version' name' structured',
          (log.configure time' version' name' structured').2.configure time version name structured
            = log.configure time version name structured)
    ∧ (∀ fault, takenNames.lookup (upperName name) = some fault →
      log.configure time version name structured = (.error fault, log))
    ∧ ∀ sources settings, Settings.read sources = .ok settings →
      ∃ text level, levelNames.lookup settings.logLevel = some level
        ∧ log.configure time version settings.logLevel settings.structuredLogging
          = (.ok text, log.atLevel level settings.structuredLogging) := by
  refine ⟨⟨?_, fun hfree => ?_⟩, fun hfree => ⟨?_, ?_⟩, fun fault htaken => ?_, fun sources settings hread => ?_⟩
  · rintro ⟨text, htext⟩
    cases htaken : takenNames.lookup (upperName name) with
    | none => rfl
    | some fault =>
        rw [configure_of_taken htaken] at htext
        cases htext
  · obtain ⟨text, htext⟩ := configure_of_free hfree time version structured log
    exact ⟨text, by rw [htext]⟩
  · obtain ⟨text, htext⟩ := configure_of_free hfree time version structured log
    rw [htext]
  · intro time' version' name' structured'
    cases htaken : takenNames.lookup (upperName name') with
    | none =>
        obtain ⟨text, htext⟩ := configure_of_free htaken time' version' structured' log
        rw [htext, configure_atLevel time version name structured log _ _ hfree]
    | some fault => rw [configure_of_taken htaken]
  · exact configure_of_taken htaken time version structured log
  · obtain ⟨level, hlevel⟩ := Settings.lookup_logLevel hread
    have hupper := upperName_of_lookup hlevel
    have hfree : takenNames.lookup (upperName settings.logLevel) = none := by
      rw [hupper, lookup_takenNames_of_level hlevel]
    obtain ⟨text, htext⟩ := configure_of_free hfree time version settings.structuredLogging log
    have hnamed : levelNamed settings.logLevel = level := by rw [levelNamed, hupper, hlevel, Option.getD_some]
    exact ⟨text, level, hlevel, hnamed ▸ htext⟩

/-- A log with two sinks that drop everything. -/
def crowded : Log where
  level := 30
  sinks := [⟨0, none, []⟩, ⟨0, none, []⟩]

/-- A level that is given in lower case with white space around it. -/
def looseSources : Settings.Sources where
  given := [("log_level", .str " debug ")]

lemma toLower_ne_of_length {first second : String} (h : first.length ≠ second.length) :
    first.toLower ≠ second.toLower := by
  intro heq
  have hlength : ∀ text : String, text.toLower.length = text.length := fun _ => String.length_map
  exact h ((hlength first).symm.trans ((congrArg String.length heq).trans (hlength second)))

lemma read_looseSources : Settings.read looseSources = .ok ⟨none, "DEBUG", true⟩ := by
  have hname : Settings.levelOf (.str " debug ") = .ok "DEBUG" := by decide +kernel
  have hpath : "log_level".toLower ≠ "policy_path".toLower := toLower_ne_of_length (by decide)
  have hlayout : "log_level".toLower ≠ "structured_logging".toLower := toLower_ne_of_length (by decide)
  simp [Settings.read, Settings.setting, Settings.Sources.value?, Settings.Sources.fileVariables,
    Fields.lookupCaseless, Fields.ofList, Fields.put, looseSources, hname, hpath, hlayout, Except.mapError]

/-- A name that means nothing sets the log up with the default level, also after another name, and a level that
is read from settings is the one that they name. -/
theorem configure_sets_crowded :
    takenNames.lookup (upperName "verbose") = none
      ∧ ((crowded.configure "" "" "warn" true).2.configure "" "" "verbose" false).2 = crowded.atLevel 20 false
      ∧ Settings.read looseSources = .ok ⟨none, "DEBUG", true⟩
      ∧ ∃ text, crowded.configure "" "" "DEBUG" true = (.ok text, crowded.atLevel 10 true) := by
  have hfree : takenNames.lookup (upperName "verbose") = none := by decide +kernel
  have hdefault : levelNamed "verbose" = 20 := by decide +kernel
  obtain ⟨-, hsets, -, hsettings⟩ := configure_sets "" "" "verbose" false crowded
  obtain ⟨hset, hagain⟩ := hsets hfree
  obtain ⟨text, level, hlevel, htext⟩ := hsettings looseSources _ read_looseSources
  obtain rfl : level = 10 := Option.some.inj (hlevel.symm.trans (by decide))
  refine ⟨hfree, ?_, read_looseSources, text, htext⟩
  rw [hagain, hset, hdefault]

/-- A mistyped name is not always taken for the default level: that of the template of plain lines stops the setting
up, and the log is left as it was. -/
theorem not_configure_sets_taken :
    crowded.configure "" "" "basic_format" true = (.error .template, crowded)
      ∧ ¬ ∀ name structured (log : Log), ∃ text,
        log.configure "" "" name structured = (.ok text, log.atLevel (levelNamed name) structured) := by
  have htaken : takenNames.lookup (upperName "basic_format") = some .template := by decide +kernel
  have hstops := configure_of_taken htaken "" "" true crowded
  refine ⟨hstops, fun hall => ?_⟩
  obtain ⟨text, htext⟩ := hall "basic_format" true crowded
  rw [hstops] at htext
  cases htext

end Log
end Redaction

import Entitlement.Policy.Evaluation

/-!
# Configuration

Three settings decide how the program works: `AUTHZ_MODE`, the mode of
enforcement; `AUTHZ_STRICT_LEVELS`, whether leaves that are no access levels fail;
and `DATABASE_URL`, the database to read from.
-/

namespace Entitlement

/-- The configuration. -/
structure Config where
  mode : Mode
  strictLevels : Bool
  databaseUrl : Option String
  deriving DecidableEq

namespace Config

/-- The configuration without any setting. -/
def standard : Config := ⟨.off, false, none⟩

/-- The spellings of truth values. -/
def truthValues : List (String × Bool) :=
  [("1", true), ("true", true), ("yes", true), ("on", true), ("0", false), ("false", false),
    ("no", false), ("off", false)]

/-- The truth value of a setting, which may be written in either case and amid
white space. -/
def truthValue? (setting : String) : Option Bool :=
  truthValues.lookup (Text.toLower (Text.trim setting))

/-- The mode that is set. -/
def modeOf (setting : Option String) : Except Error Mode :=
  match setting with
  | none => .ok .off
  | some setting =>
      match Mode.ofSetting? setting with
      | some mode => .ok mode
      | none => .error (.badMode setting)

/-- The strictness that is set. -/
def strictnessOf (setting : Option String) : Except Error Bool :=
  match setting with
  | none => .ok false
  | some setting =>
      match truthValue? setting with
      | some strict => .ok strict
      | none => .error (.badStrictness setting)

/-- The configuration by settings; a blank database address is none. -/
def ofSettings (setting? : String → Option String) : Except Error Config := do
  let mode ← modeOf (setting? "AUTHZ_MODE")
  let strictLevels ← strictnessOf (setting? "AUTHZ_STRICT_LEVELS")
  let databaseUrl := (setting? "DATABASE_URL").filter fun url => !(Text.trim url).isEmpty
  return ⟨mode, strictLevels, databaseUrl⟩

end Config

end Entitlement

import Phrasebook.Message.Category
import Phrasebook.Settings.Error

/-! What can go wrong when a message is looked up, put together or loaded. -/

namespace Phrasebook

/-- Why a message cannot be given. -/
inductive Error where
  | notStored (key locale : String)
  | notFound (key locale : String)
  /-- A count was given for a message without plural forms. -/
  | pluralMismatch (key : String)
  | categoryMissing (key : String) (selected : Category)
  | missingCount (key : String)
  | missingArgument (key name template : String)
  | functionNotFound (name locale template : String)
  | argumentIndex (name index template : String)
  | invalidTemplate (template : String) (position : Nat)
  /-- A reference to a message that is not there, or, if a kind is given, is not a single template. -/
  | invalidReference (reference key : String) (kind : Option String)
  | cyclicReference (chain : List String)
  /-- References led through more keys than the search admits. -/
  | tooDeep (key : String)
  | load (message : String)
  | settings (error : SettingsError)
deriving DecidableEq, Repr

open Text in
/-- The description of an error. -/
def Error.message : Error → String
  | .notStored key locale => "no translation stored for '" ++ key ++ "' in locale '" ++ locale ++ "'"
  | .notFound key _ => "key " ++ key ++ " not found"
  | .pluralMismatch key => "use of count without plural mapping for key " ++ key
  | .categoryMissing key selected =>
    "\"many\" not defined for key " ++ key ++ " (selected " ++ selected.name ++ ")"
  | .missingCount key => "plural mapping for key " ++ key ++ " used without count"
  | .missingArgument key name template =>
    "no argument " ++ quoted name ++ " for placeholder in " ++ quoted template ++ " (key " ++ key ++ ")"
  | .functionNotFound name locale template =>
    "No function " ++ quoted name ++ " found for locale " ++ quoted locale ++
      " (in " ++ quoted template ++ ")"
  | .argumentIndex name index template =>
    "No argument " ++ index ++ " for function " ++ quoted name ++ " (in " ++ quoted template ++ ")"
  | .invalidTemplate template position =>
    "Invalid placeholder in template " ++ quoted template ++ " at position " ++ toString position
  | .invalidReference reference key kind =>
    "no value found for static reference " ++ quoted reference ++ " (in " ++ quoted key ++ ")" ++
      match kind with
      | some kind => ": " ++ kind ++ " value cannot be inlined"
      | none => ""
  | .cyclicReference chain => "cyclic static reference: " ++ " -> ".intercalate chain
  | .tooDeep key => "static references too deep at key " ++ key
  | .load message => message
  | .settings error => error.message

end Phrasebook

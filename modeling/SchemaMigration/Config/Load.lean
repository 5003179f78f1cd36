import SchemaMigration.Config.Document
import SchemaMigration.Config.Environment
import SchemaMigration.Config.Settings

/-
  Loading settings from their sources.

  A document gives way to the environment. A file that is no document counts as
  absent, while a setting of no use makes the loading fail, unless a later
  source binds its name.
-/
namespace SchemaMigration.Config

namespace Settings

/-- The settings of a document alone. -/
def ofDocument? (text : String) : Option Settings := (Document.bindings? text).bind ofBindings

/-- The settings of a document, if there is one, and the environment. -/
def load? (document : Option String) (env : Environment) : Option Settings :=
  ofBindings (((document.bind Document.bindings?).getD []) ++ env.bindings)

end Settings

end SchemaMigration.Config

import CommandScript.Scanner.Basic

/-!
# Loading properties

A properties source is a table of records, one to a line or between semicolons.
It is read like a script, so it may print, include, pause and set properties;
its records see the registry, not one another.
-/

namespace CommandScript

/-- How properties sources are loaded. -/
structure PropertiesLoader where
  expander : Expander := {}
  verbose : Bool := false

namespace PropertiesLoader

def settings (loader : PropertiesLoader) : Settings where
  kind := .records
  options := { verbose := loader.verbose }
  expander := loader.expander

/-- Loads a source into a table; the first line that is neither record nor
built-in is an error. -/
def load (loader : PropertiesLoader) (resources : Resources) (source : Source) :
    Act Store Table := do
  Act.modify (Scanner.prepare .records)
  withOwnTarget (readRecords resources loader.settings
    (fun f s => settle resources resources.depthBound loader.settings f [] s) source)

end PropertiesLoader
end CommandScript

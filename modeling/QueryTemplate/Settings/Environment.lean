import QueryTemplate.Settings.Basic
import QueryTemplate.Text.Blank

/-!
# Settings from the environment

Four environment variables override settings that were read elsewhere. A flag is true if its
variable says so and false if it says anything else; a capacity that cannot be read changes
nothing.
-/

set_option autoImplicit false

namespace QueryTemplate

/-- The variables of an environment with the bytes that they are set to. -/
abbrev Environment := List (Text × ByteArray)

namespace Environment

/-- The text that a variable is set to. One whose bytes are no text counts as not set. -/
def get? (environment : Environment) (name : Text) : Option Text :=
  (environment.lookup name).bind Text.ofUtf8?

end Environment

/-- What the environment says about the settings: for each of them, the text of its variable. -/
structure Overrides where
  debug : Option Text := none
  logLevel : Option Text := none
  cacheEnabled : Option Text := none
  cacheCapacity : Option Text := none
  deriving DecidableEq, Repr

namespace Overrides

def ofEnvironment (environment : Environment) : Overrides where
  debug := environment.get? "STMT_DEBUG".toList
  logLevel := environment.get? "STMT_LOG_LEVEL".toList
  cacheEnabled := environment.get? "STMT_TEMPLATE_CACHE_ENABLED".toList
  cacheCapacity := environment.get? "STMT_TEMPLATE_CACHE_CAPACITY".toList

/-- Whether a text says that something is on: `true`, `yes` or `1`, in letters of either case and
with any blanks around it. -/
def isOn (text : Text) : Bool :=
  ["true".toList, "1".toList, "yes".toList].contains ((Text.trim text).map Char.toLower)

def capacity? (text : Text) : Option UInt64 := Text.readWord? (Text.trim text)

end Overrides

namespace Settings

/-- Settings with what the environment says in place of what they said. -/
def override (settings : Settings) (overrides : Overrides) : Settings where
  debug := (overrides.debug.map Overrides.isOn).getD settings.debug
  logLevel := overrides.logLevel.getD settings.logLevel
  cache :=
    { enabled := (overrides.cacheEnabled.map Overrides.isOn).getD settings.cache.enabled
      capacity :=
        (overrides.cacheCapacity.bind Overrides.capacity?).getD settings.cache.capacity }

end Settings

end QueryTemplate

import QueryTemplate.Document.Basic
import QueryTemplate.Json.Writer

/-!
# Settings

What an application configures: its logging, and whether and how many templates are cached.
-/

set_option autoImplicit false

namespace QueryTemplate

/-- Whether templates are cached, and how many at most. No bound is written as zero. -/
structure CacheSettings where
  enabled : Bool := true
  capacity : UInt64 := 0
  deriving DecidableEq, Repr

structure Settings where
  debug : Bool := false
  logLevel : Text := "info".toList
  cache : CacheSettings := {}
  deriving DecidableEq, Repr

namespace CacheSettings

def enabledKey : Text := "cache_enabled".toList

def capacityKey : Text := "cache_capacity".toList

def keys : List Text := [enabledKey, capacityKey]

def toDocument (settings : CacheSettings) : Document :=
  .object
    [(enabledKey, .boolean settings.enabled),
      (capacityKey, .whole ⟨settings.capacity.toNat, by omega, by
        have := settings.capacity.toNat_lt
        omega⟩)]

end CacheSettings

namespace Settings

def debugKey : Text := "debug".toList

def logLevelKey : Text := "log_level".toList

def cacheKey : Text := "template".toList

def keys : List Text := [debugKey, logLevelKey, cacheKey]

def toDocument (settings : Settings) : Document :=
  .object
    [(debugKey, .boolean settings.debug), (logLevelKey, .string settings.logLevel),
      (cacheKey, settings.cache.toDocument)]

def toJson (settings : Settings) : Text := Json.write settings.toDocument

end Settings

end QueryTemplate

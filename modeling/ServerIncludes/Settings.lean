import ServerIncludes.Encoding
import ServerIncludes.Size
import ServerIncludes.Time.Format

/-!
Settings that directives obey: the texts shown where something is missing, and the formats of
sizes, times and values.
-/

namespace ServerIncludes

structure Settings where
  /-- Stands where an inclusion, a time or a size could not be had. -/
  errorMessage : String
  /-- Stands where a variable without a value is echoed. -/
  missingMessage : String
  sizeFormat : SizeFormat
  timeFormat : String
  /-- How values are echoed unless the tag says so. -/
  encoding : Encoding
  deriving DecidableEq, Repr

namespace Settings

def standard : Settings :=
  ⟨"[an error occurred while processing this directive]", "(none)", .abbreviated,
    TimeFormat.fallback, .entity⟩

/-- A point in time in the format that is set; nothing if times cannot be written in it. -/
def writeTime (settings : Settings) (zone : Zone) (instant : Instant) : Option String :=
  (TimeFormat.ofText settings.timeFormat).write zone instant

end Settings

end ServerIncludes

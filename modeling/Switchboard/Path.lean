import Switchboard.Text.Fields
import Switchboard.Text.Percent

/-!
# Paths

A path is read as the list of its segments: the parts between slashes that hold at least one
character, so that doubled, leading and trailing slashes do not count. A segment is compared after
percent-decoding, and only after the path was split, so that an encoded slash stays inside its
segment.
-/

namespace Switchboard.Path

/-- **The segments of a path**, as written. -/
def segments (path : String) : List String :=
  (Text.filledFields '/' path.toList).map String.ofList

/-- A segment with its percent-escapes undone. -/
def decodeSegment (segment : String) : String :=
  String.ofList (Percent.decode segment.toList)

/-- The segments of a path, decoded. -/
def decodedSegments (path : String) : List String :=
  (segments path).map decodeSegment

end Switchboard.Path

import StableFleet.Text.Bytes

/-!
# Complaints about documents

Bytes that do not hold a document of the kind that is sought are refused, and the report of
that ends with what the reader of documents has to say about them. How it puts this into
words is left open; what a program makes of the bytes does not depend on it.
-/

namespace StableFleet.Json

/-- How a reader of documents words what is wrong with bytes in which a document of some kind
is sought. A document may also be sought in a value that was read before. -/
class Complaint where
  /-- The words about bytes that hold no document of this kind. -/
  about (kind : String) (bytes : Bytes) : String

/-- Words that leave out where in the bytes the trouble is. -/
instance : Complaint := ⟨fun kind _ => "no " ++ kind⟩

end StableFleet.Json

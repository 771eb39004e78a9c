import StableFleet.Dimensions.Basic
import StableFleet.Json.Codec

/-!
# Dimensions as documents

Dimensions are an object with the list of values under each key.
-/

namespace StableFleet.Dimensions

open Json (Codec Value)

/-- How dimensions are read and written. -/
def codec : Codec Dimensions := Codec.table (Codec.list Codec.text)

/-- Dimensions as a value. -/
def toValue (dimensions : Dimensions) : Value := codec.write dimensions

end StableFleet.Dimensions

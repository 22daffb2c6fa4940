import FleetHealth.Fault.Kind
import FleetHealth.Text.Quoted

/-!
# Fault — Shape

What is wrong with a value that is not of the form an operation needs: a text that writes no number, a number beyond a range, a value that cannot be iterated, compared, subtracted or used as a key.  The causes name types and show texts, so they can be stated before the values are.
-/

namespace FleetHealth

/-- A value that is not of the form an operation needs. -/
inductive ShapeFault where
  | notInteger (text : String)
  | tooManyDigits (digits : Nat)
  | notNumber (shown : String)
  | notReal (type : String)
  | integerFromNaN
  | integerFromInfinity
  | integerTooLarge
  | noIntegerFrom (type : String)
  | noNumberFrom (type : String)
  | notIterable (type : String)
  | noLength (type : String)
  | notContainer (type : String)
  | notSubscriptable (type : String)
  | noMember (type member : String)
  | unhashable (type : String)
  | unknownName (shown vocabulary : String)
  | unsubtractable (left right : String)
  | incomparable (relation left right : String)
  | sumOverflow
  | oppositeInfinities
  | durationTooLong (days : Int)
  | instantOutOfRange
  | nestedTooDeep (container : String)
  | columnMissing (column : String)
  | reservedField (name : String)
  | unknownSetting (name : String)
  | notPath (type : String)
  | runnerParts (given : Nat)
  | runnerWhole (type : String)
deriving DecidableEq

namespace ShapeFault

/-- The kind of a value of the wrong form. -/
def kind : ShapeFault → Fault.Kind
  | notInteger _ | tooManyDigits _ | notNumber _ | integerFromNaN | unknownName ..
  | oppositeInfinities => .value
  | integerFromInfinity | integerTooLarge | sumOverflow | durationTooLong _
  | instantOutOfRange => .overflow
  | noIntegerFrom _ | noNumberFrom _ | notReal _ | notIterable _ | noLength _ | notContainer _
  | notSubscriptable _ | unhashable _ | unsubtractable .. | incomparable .. | reservedField _
  | unknownSetting _ | notPath _ | runnerParts _ | runnerWhole _ => .wrongType
  | noMember ..     => .noMember
  | columnMissing _ => .key
  | nestedTooDeep _ => .recursion

/-- How many characters of a text that writes no whole number are shown, its quotes included. -/
def literalWidth : Nat := 200

/-- The wording of a value of the wrong form. -/
def message : ShapeFault → String
  | notInteger s        =>
    "invalid literal for int() with base 10: "
      ++ String.ofList ((Text.quoted s).toList.take literalWidth)
  | tooManyDigits n     =>
    "Exceeds the limit (4300 digits) for integer string conversion: value has " ++ toString n
      ++ " digits; use sys.set_int_max_str_digits() to increase the limit"
  | notNumber s         => "could not convert string to float: " ++ s
  | notReal t           => "must be real number, not " ++ t
  | integerFromNaN      => "cannot convert float NaN to integer"
  | integerFromInfinity => "cannot convert float infinity to integer"
  | integerTooLarge     => "int too large to convert to float"
  | noIntegerFrom t     =>
    "int() argument must be a string, a bytes-like object or a real number, not '" ++ t ++ "'"
  | noNumberFrom t      =>
    "float() argument must be a string or a real number, not '" ++ t ++ "'"
  | notIterable t       => "'" ++ t ++ "' object is not iterable"
  | noLength t          => "object of type '" ++ t ++ "' has no len()"
  | notContainer t      => "argument of type '" ++ t ++ "' is not iterable"
  | notSubscriptable t  =>
    if t = "str" then "string indices must be integers, not 'str'"
    else if t = "list" then "list indices must be integers or slices, not str"
    else "'" ++ t ++ "' object is not subscriptable"
  | noMember t m        => "'" ++ t ++ "' object has no attribute '" ++ m ++ "'"
  | unhashable t        => "unhashable type: '" ++ t ++ "'"
  | unknownName s v     => s ++ " is not a valid " ++ v
  | unsubtractable l r  =>
    "unsupported operand type(s) for -: '" ++ l ++ "' and '" ++ r ++ "'"
  | incomparable s l r  =>
    "'" ++ s ++ "' not supported between instances of '" ++ l ++ "' and '" ++ r ++ "'"
  | sumOverflow         => "intermediate overflow in fsum"
  | oppositeInfinities  => "-inf + inf in fsum"
  | durationTooLong d   =>
    if 2147483647 < d || d < -2147483648 then "Python int too large to convert to C int"
    else "days=" ++ toString d ++ "; must have magnitude <= 999999999"
  | instantOutOfRange   => "date value out of range"
  | nestedTooDeep c     =>
    "maximum recursion depth exceeded while decoding a JSON " ++ c ++ " from a unicode string"
  | columnMissing c     => c
  | reservedField n     => "got multiple values for argument '" ++ n ++ "'"
  | unknownSetting n    =>
    "ReporterConfig.__init__() got an unexpected keyword argument '" ++ n ++ "'"
  | notPath t           => "expected str, bytes or os.PathLike object, not " ++ t
  | runnerParts 0       =>
    "LongRunningJobRecord.__init__() missing 1 required positional argument: 'connection_id'"
  | runnerParts n       =>
    "LongRunningJobRecord.__init__() takes from 2 to 4 positional arguments but "
      ++ toString (n + 1) ++ " were given"
  | runnerWhole t       =>
    "syncwatch.models.LongRunningJobRecord() argument after * must be an iterable, not " ++ t

end ShapeFault

end FleetHealth

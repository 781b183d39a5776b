import Fcmr.DotNet.Time
import Mathlib.Data.Rat.Defs

/-! The values that `JSON.parse` yields, and what the screens do with them. A step that throws
a `TypeError` is `none`. -/
namespace Fcmr.WebUi

open DotNet

/-- A number is kept as it is written. A string in the serialiser's spelling of an instant is
kept as that instant: the screens pass it on and never look into it. Where a text has a number
or an instant in it, it is kept in pieces. -/
inductive Value
  | undefined
  | null
  | boolean (value : Bool)
  | number (value : ℚ)
  | string (value : Text)
  | instant (value : DateTimeOffset)
  | array (items : List Value)
  | object (members : List (String × Value))

namespace Value

/-- `value.name`: a member that is not there reads as `undefined`. -/
def read : Value → String → Option Value
  | undefined, _ | null, _ => none
  | object members, name => some ((members.lookup name).getD undefined)
  | _, _ => some undefined

def has : Value → String → Option Bool
  | object members, name => some (members.lookup name).isSome
  | array _, _ => some false
  | _, _ => none

def truthy : Value → Bool
  | undefined | null => false
  | boolean value => value
  | number value => value != 0
  | string value => !value.isEmpty
  | _ => true

def orElse : Value → Value → Value
  | undefined, other | null, other => other
  | value, _ => value

def equals : Value → Text → Bool
  | string value, text => value == text
  | _, _ => false

def toFixed : Value → Option Value
  | number value => some (number value)
  | _ => none

def toLocaleString : Value → Option Value
  | undefined | null => none
  | value => some value

/-- `value.map(render)`, where `render` may throw. -/
def map {α : Type} (render : Value → Option α) : Value → Option (List α)
  | array items => items.mapM render
  | _ => none

mutual

def isChild : Value → Bool
  | object _ => false
  | array items => areChildren items
  | _ => true

def areChildren : List Value → Bool
  | [] => true
  | item :: items => isChild item && areChildren items

end

def child (value : Value) : Option Value := if value.isChild then some value else none

mutual

/-- `String(value)`, piece by piece. An object whose own `toString` is no function throws, and
no member that comes from JSON is one. -/
def pieces : Value → Option (List Value)
  | undefined => some [string (lit "undefined")]
  | null => some [string (lit "null")]
  | boolean value => some [string (if value then lit "true" else lit "false")]
  | array items => joined items
  | object members =>
    if (members.lookup "toString").isSome then none else some [string (lit "[object Object]")]
  | value => some [value]

/-- The items with a comma after each but the last; what is null or undefined is left blank. -/
def joined : List Value → Option (List Value)
  | [] => some []
  | item :: items => do
    let first ← match item with
      | undefined | null => some []
      | item => pieces item
    let rest ← joined items
    return first ++ if items.isEmpty then rest else string (lit ",") :: rest

end

def ofPieces (pieces : List Value) : Value :=
  match pieces.filter fun piece => !piece.equals [] with
  | [] => string []
  | [piece] => piece
  | pieces => array pieces

/-- The message of `new Error(value)`. -/
def text (value : Value) : Option Value := value.pieces.map ofPieces

@[simp]
theorem text_string (value : Text) : (string value).text = some (string value) := by
  cases value <;> rfl

end Value

end Fcmr.WebUi

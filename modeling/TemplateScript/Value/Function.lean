/-!
# Functions

A function value is a member of a library or a function that the host lends. A plain member works
on its arguments alone; a framed one also works in the frame of the call.
-/

namespace TemplateScript

/-- The parts of the standard environment. -/
inductive Library where
  | core | string | math | table | splice
deriving DecidableEq, Repr

/-- The library functions that depend on their arguments alone. -/
inductive PlainMember where
  | tostring | tonumber | type | select | error | assert
  | upper | lower | len | rep | sub | format
  | floor | ceil | abs | sqrt | max | min
  | concat
deriving DecidableEq, Repr

/-- The library functions that work in the frame of the call. -/
inductive FramedMember where
  | parseExpression | evalExpression | interpolate | baseUrl
deriving DecidableEq, Repr

inductive Member where
  | plain (m : PlainMember)
  | framed (m : FramedMember)
deriving DecidableEq, Repr

namespace Library

/-- The members of a library in the order in which its table holds them. -/
def members : Library → List Member
  | .core => [.assert, .error, .select, .tonumber, .tostring, .type].map Member.plain
  | .string => [.format, .len, .lower, .rep, .sub, .upper].map Member.plain
  | .math => [.abs, .ceil, .floor, .max, .min, .sqrt].map Member.plain
  | .table => [.plain .concat]
  | .splice => [.baseUrl, .evalExpression, .interpolate, .parseExpression].map Member.framed

end Library

namespace PlainMember

def library : PlainMember → Library
  | .tostring | .tonumber | .type | .select | .error | .assert => .core
  | .upper | .lower | .len | .rep | .sub | .format => .string
  | .floor | .ceil | .abs | .sqrt | .max | .min => .math
  | .concat => .table

/-- The internal name, in words that underscores begin and join. -/
def internalName : PlainMember → String
  | .tostring => "_tostring"
  | .tonumber => "_tonumber"
  | .type => "_type"
  | .select => "_select"
  | .error => "_error"
  | .assert => "_assert"
  | .upper => "_upper"
  | .lower => "_lower"
  | .len => "_len"
  | .rep => "_rep"
  | .sub => "_sub"
  | .format => "_format"
  | .floor => "_floor"
  | .ceil => "_ceil"
  | .abs => "_abs"
  | .sqrt => "_sqrt"
  | .max => "_max"
  | .min => "_min"
  | .concat => "_concat"

end PlainMember

def FramedMember.internalName : FramedMember → String
  | .parseExpression => "_parse_expression"
  | .evalExpression => "_eval_expression"
  | .interpolate => "_interpolate"
  | .baseUrl => "_base_url"

namespace Member

def library : Member → Library
  | .plain m => m.library
  | .framed _ => .splice

def internalName : Member → String
  | .plain m => m.internalName
  | .framed m => m.internalName

end Member

/-- A library function belongs to the environment it was made for; a host function is known by a
key and shows under a name. -/
inductive Function where
  | member (m : Member) (home : Nat)
  | host (key shown : String)
deriving DecidableEq, Repr

end TemplateScript

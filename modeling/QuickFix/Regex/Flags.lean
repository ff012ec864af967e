/-!
Flags change how a pattern is read from the place where they stand to the end of the group.
-/

namespace QuickFix.Regex

/-- What the flags of a pattern are set to. -/
structure Flags where
  /-- Case is ignored (`i`). -/
  caseless : Bool := false
  /-- Line ends end texts (`m`). -/
  multiLine : Bool := false
  /-- A dot matches a line feed (`s`). -/
  dotAll : Bool := false
  /-- Lazy and greedy change places (`U`). -/
  swapGreed : Bool := false
  /-- Classes know all of Unicode (`u`). -/
  unicode : Bool := true
  /-- A carriage return ends a line (`R`). -/
  crlf : Bool := false
  /-- Blanks and comments are left out (`x`). -/
  spaced : Bool := false
  deriving DecidableEq, Repr

/-- A flag to be set or cleared. -/
inductive Flag where
  | caseless
  | multiLine
  | dotAll
  | swapGreed
  | unicode
  | crlf
  | spaced
  deriving DecidableEq, Repr

def Flag.ofChar? : Char → Option Flag
  | 'i' => some .caseless
  | 'm' => some .multiLine
  | 's' => some .dotAll
  | 'U' => some .swapGreed
  | 'u' => some .unicode
  | 'R' => some .crlf
  | 'x' => some .spaced
  | _ => none

def Flags.put (flags : Flags) (value : Bool) : Flag → Flags
  | .caseless => { flags with caseless := value }
  | .multiLine => { flags with multiLine := value }
  | .dotAll => { flags with dotAll := value }
  | .swapGreed => { flags with swapGreed := value }
  | .unicode => { flags with unicode := value }
  | .crlf => { flags with crlf := value }
  | .spaced => { flags with spaced := value }

/-- Reads flags up to the colon or bracket that ends them, which is left. A hyphen clears the flags
behind it; it and each flag may stand once, and a flag must follow it. -/
def readFlags (flags : Flags) (seen : List Flag) (clearing afterHyphen : Bool) :
    List Char → Option (Flags × Nat × List Char)
  | [] => none
  | c :: cs =>
    if c = ':' ∨ c = ')' then
      if afterHyphen then none else some (flags, seen.length, c :: cs)
    else if c = '-' then
      if clearing then none else readFlags flags seen true true cs
    else
      match Flag.ofChar? c with
      | none => none
      | some flag =>
        if seen.contains flag then none
        else readFlags (flags.put (!clearing) flag) (flag :: seen) clearing false cs

end QuickFix.Regex

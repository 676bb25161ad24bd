/-!
# Durations

A duration is a whole number of nanoseconds. The millisecond views round
towards zero, and the longest duration has `2 ^ 64 - 1` whole seconds, which is
where the saturating views stop.

`Duration.text` is the short human form: the largest unit that keeps the
integer part positive, with as many fraction digits as the value needs.
-/

namespace PubSub

/-- The largest value of an unsigned 64-bit counter. -/
def maxWord : Nat := 18446744073709551615

/-- The largest value of an unsigned 32-bit counter. -/
def maxHalfWord : Nat := 4294967295

/-- A span of time, counted in whole nanoseconds. -/
structure Duration where
  nanos : Nat
  deriving DecidableEq, Inhabited

namespace Duration

/-- The empty span. -/
def zero : Duration := ⟨0⟩

/-- A whole number of milliseconds. -/
def ofMillis (millis : Nat) : Duration := ⟨millis * 1000000⟩

def ofParts (seconds nanos : Nat) : Duration := ⟨seconds * 1000000000 + nanos⟩

def seconds (span : Duration) : Nat := span.nanos / 1000000000

/-- Nanoseconds after the last whole second. -/
def subsecond (span : Duration) : Nat := span.nanos % 1000000000

/-- Whole milliseconds in the span. -/
def wholeMillis (span : Duration) : Nat := span.nanos / 1000000

/-- Whole milliseconds in the span, stopping at the largest 64-bit word. -/
def millis (span : Duration) : Nat := min span.wholeMillis maxWord

def isZero (span : Duration) : Bool := span.nanos == 0

/-- The shorter of two spans. -/
def shorter (left right : Duration) : Duration := ⟨min left.nanos right.nanos⟩

instance : LE Duration := ⟨fun left right => left.nanos ≤ right.nanos⟩

instance (left right : Duration) : Decidable (left ≤ right) :=
  inferInstanceAs (Decidable (left.nanos ≤ right.nanos))

theorem le_iff_nanos_le {left right : Duration} :
    left ≤ right ↔ left.nanos ≤ right.nanos := Iff.rfl

@[simp] theorem nanos_ofMillis (count : Nat) :
    (ofMillis count).nanos = count * 1000000 := rfl

/-- Rounding down to milliseconds never lengthens a span. -/
theorem ofMillis_wholeMillis_le (span : Duration) :
    ofMillis span.wholeMillis ≤ span := by
  rw [le_iff_nanos_le, nanos_ofMillis, wholeMillis]
  omega

def paddedDigits (width value : Nat) : List Char :=
  let digits := (Nat.repr value).toList
  List.replicate (width - digits.length) '0' ++ digits

/-- A decimal fraction of `width` digits without its trailing zeros; empty for zero. -/
def fractionText (width value : Nat) : String :=
  let digits := ((paddedDigits width value).reverse.dropWhile (· == '0')).reverse
  if digits.isEmpty then "" else "." ++ String.ofList digits

/-- The short form of a span, in seconds, milliseconds, microseconds or nanoseconds. -/
def text (span : Duration) : String :=
  let nanos := span.nanos
  if 1000000000 ≤ nanos then
    Nat.repr span.seconds ++ fractionText 9 span.subsecond ++ "s"
  else if 1000000 ≤ nanos then
    Nat.repr (nanos / 1000000) ++ fractionText 6 (nanos % 1000000) ++ "ms"
  else if 1000 ≤ nanos then
    Nat.repr (nanos / 1000) ++ fractionText 3 (nanos % 1000) ++ "µs"
  else
    Nat.repr nanos ++ "ns"

end Duration
end PubSub

import Conform.Internet.Url
import Conform.Pattern.Build
import Conform.Pattern.Match
import Conform.Schema.Basic

/-!
# Formats of strings

The patterns of the named string formats, and of points of time in their variants. Every pattern is
anchored at both ends; its end may stand before one final line feed.

## Main definitions

- `TextFormat.regex` — the patterns without options
- `TimestampForm.regex`, `Fraction.timeRegex` — dates with times, and times
- `IpVersion.accepts` — internet addresses by version
-/

namespace Conform

open Regex

/-- The hexadecimal digits. -/
def hexDigits : List SetItem := [between '0' '9', between 'a' 'f', between 'A' 'F']

/-- A place between a word character and another code point. -/
def wordBoundary : Regex := .anchor (.boundary .unicode false)

/-- Five groups of hexadecimal digits between hyphens. -/
def uuidRegex : Regex :=
  let hex (n : Nat) : Regex := times n (oneOf hexDigits)
  wholeText [hex 8, wordBoundary, char '-', hex 4, wordBoundary, char '-', hex 4, wordBoundary,
    char '-', hex 4, wordBoundary, char '-', hex 12]

/-- A local part without two points in a row or a point at its ends, and a domain with a point. -/
def emailRegex : Regex :=
  wholeText [
    .ahead true (char '.'),
    .ahead true (sequence [atLeast 0 (.unit .anyButNewline), char '.', char '.']),
    atLeast 0 (oneOfFolded (between 'A' 'Z' :: between '0' '9' :: listed "_'+-.")),
    oneOfFolded (between 'A' 'Z' :: between '0' '9' :: listed "_+-"),
    char '@',
    atLeast 1 (sequence [
      oneOfFolded [between 'A' 'Z', between '0' '9'],
      atLeast 0 (oneOfFolded (between 'A' 'Z' :: between '0' '9' :: listed "-")),
      char '.']),
    atLeast 2 (oneOfFolded [between 'A' 'Z'])]

/-- The letter `c` in any case and at least eight code points that are neither blanks nor
hyphens. -/
def cuidRegex : Regex :=
  wholeText [.unit (.one .unicode false 'c'.toNat),
    atLeast 8 (.unit (.set ⟨true, .unicode, [.named .blank false .unicode, .one '-'.toNat]⟩))]

/-- Digits and small letters. -/
def cuid2Regex : Regex := wholeText [atLeast 1 (oneOf [between '0' '9', between 'a' 'z'])]

/-- Twenty-six digits and letters, without those that look like digits. -/
def ulidRegex : Regex :=
  wholeText [times 26 (oneOfFolded
    [between '0' '9', between 'A' 'H', between 'J' 'K', between 'M' 'N', between 'P' 'T',
      between 'V' 'Z'])]

/-- Twenty-one letters, digits, underscores and hyphens. -/
def nanoidRegex : Regex :=
  wholeText [times 21 (oneOfFolded (between 'a' 'z' :: between '0' '9' :: listed "_-"))]

/-- The code points that emoji are made of. -/
def emojiRegex : Regex :=
  wholeText [atLeast 1 (oneOf [.range 0x1F000 0x1FAFF, .range 0x2600 0x27BF, .range 0x2B00 0x2BFF,
    .one 0x3030, .one 0x303D, .one 0x3297, .one 0x3299, .one 0xFE0F, .one 0x200D, .one 0x20E3,
    .range 0xE0020 0xE007F])]

/-- Groups of four, the last of which may be filled up with equals signs. -/
def base64Regex : Regex :=
  let digit64 : Regex :=
    oneOf (between '0' '9' :: between 'a' 'z' :: between 'A' 'Z' :: listed "+/")
  wholeText [atLeast 0 (times 4 digit64),
    maybe (.alt (sequence [times 2 digit64, chars "=="]) (sequence [times 3 digit64, char '=']))]

/-- The years with a leap day, which are told by their last two digits or, in years that end a
century, by the first two. -/
def leapYearRegex : Regex :=
  choice [
    sequence [digit, digit, oneOf (listed "2468"), oneOf (listed "048")],
    sequence [digit, digit, oneOf (listed "13579"), oneOf (listed "26")],
    sequence [digit, digit, char '0', oneOf (listed "48")],
    sequence [oneOf (listed "02468"), oneOf (listed "048"), chars "00"],
    sequence [oneOf (listed "13579"), oneOf (listed "26"), chars "00"]]

/-- The days of the months that have thirty-one. -/
def longMonthRegex : Regex :=
  sequence [
    .alt (sequence [char '0', oneOf (listed "13578")]) (sequence [char '1', oneOf (listed "02")]),
    char '-',
    choice [sequence [char '0', oneOf [between '1' '9']],
      sequence [oneOf (listed "12"), digit], sequence [char '3', oneOf (listed "01")]]]

/-- The days of the months that have thirty. -/
def shortMonthRegex : Regex :=
  sequence [
    .alt (sequence [char '0', oneOf (listed "469")]) (chars "11"),
    char '-',
    choice [sequence [char '0', oneOf [between '1' '9']],
      sequence [oneOf (listed "12"), digit], chars "30"]]

/-- The days of February in every year. -/
def februaryRegex : Regex :=
  sequence [
    chars "02", char '-',
    choice [sequence [char '0', oneOf [between '1' '9']], sequence [char '1', digit],
      sequence [char '2', oneOf [between '0' '8']]]]

/-- The days of the calendar: leap days, and the days that every year has. -/
def dateRegex : Regex :=
  wholeText [.alt (sequence [leapYearRegex, chars "-02-29"])
    (sequence [times 4 digit, char '-',
      choice [longMonthRegex, shortMonthRegex, februaryRegex]])]

/-- An amount of a unit: a signed whole number or, in the last place, one with decimals. -/
def durationPart (letter : Char) : Regex :=
  let sign : Regex := maybe (oneOf (listed "-+"))
  maybe (.alt
    (sequence [sign, atLeast 1 digit, char letter])
    (sequence [sign, atLeast 1 digit, oneOf (listed ".,"), atLeast 1 digit, char letter,
      .anchor .finalEnd]))

/-- Amounts of years, months, weeks and days, and after a `T` of hours, minutes and seconds. -/
def durationRegex : Regex :=
  let sign : Regex := maybe (oneOf (listed "-+"))
  wholeText [sign, char 'P', .ahead true (.anchor .finalEnd),
    durationPart 'Y', durationPart 'M', durationPart 'W', durationPart 'D',
    .rounds .lazy 0 (some 1) (sequence [
      char 'T',
      .ahead false (oneOf (.named .digit false .unicode :: listed "+-")),
      durationPart 'H', durationPart 'M',
      maybe (sequence [sign, atLeast 1 digit,
        maybe (sequence [oneOf (listed ".,"), atLeast 1 digit]), char 'S'])])]

/-- The pattern of a format. -/
def TextFormat.regex : TextFormat → Regex
  | .uuid => uuidRegex
  | .email => emailRegex
  | .cuid => cuidRegex
  | .cuid2 => cuid2Regex
  | .ulid => ulidRegex
  | .nanoid => nanoidRegex
  | .emoji => emojiRegex
  | .base64 => base64Regex
  | .date => dateRegex
  | .duration => durationRegex

/-- The name of a format. -/
def TextFormat.name : TextFormat → Text
  | .uuid => "uuid"
  | .email => "email"
  | .cuid => "cuid"
  | .cuid2 => "cuid2"
  | .ulid => "ulid"
  | .nanoid => "nanoid"
  | .emoji => "emoji"
  | .base64 => "base64"
  | .date => "date"
  | .duration => "duration"

/-- Whether a text has a format. -/
def TextFormat.accepts (format : TextFormat) (t : Text) : Bool := (format.regex.matchAt? t).isSome

/-- The fraction of a second. -/
def Fraction.regex : Fraction → Regex
  | .optional => maybe (sequence [char '.', atLeast 1 digit])
  | .absent => .empty
  | .digits n => sequence [char '.', times n digit]

/-- The letter or offset at the end of a point of time. -/
def TimestampForm.zoneRegex (form : TimestampForm) : Regex :=
  let zone : Regex :=
    if form.offset then
      .alt (sequence [oneOf (listed "+-"), times 2 digit,
        maybe (sequence [maybe (char ':'), times 2 digit])]) (char 'Z')
    else char 'Z'
  if form.isLocal then maybe zone else zone

/-- A date and a time of day with a fraction and an end of the given form. -/
def TimestampForm.regex (form : TimestampForm) : Regex :=
  wholeText [times 4 digit, char '-', times 2 digit, char '-', times 2 digit, char 'T',
    times 2 digit, char ':', times 2 digit, char ':', times 2 digit, form.fraction.regex,
    form.zoneRegex]

/-- Whether a text is a date with a time of the given form. -/
def TimestampForm.accepts (form : TimestampForm) (t : Text) : Bool :=
  (form.regex.matchAt? t).isSome

/-- A time of day, with a fraction of the given form. -/
def Fraction.timeRegex (fraction : Fraction) : Regex :=
  wholeText [
    .alt (sequence [oneOf (listed "01"), digit]) (sequence [char '2', oneOf [between '0' '3']]),
    char ':', oneOf [between '0' '5'], digit, char ':', oneOf [between '0' '5'], digit,
    fraction.regex]

/-- Whether a text is a time of day with a fraction of the given form. -/
def Fraction.accepts (fraction : Fraction) (t : Text) : Bool :=
  (fraction.timeRegex.matchAt? t).isSome

/-- Whether a text is an internet address of a version, or of either one. -/
def IpVersion.accepts (version : Option IpVersion) (t : Text) : Bool :=
  match version with
  | some .v4 => Internet.isV4 t
  | some .v6 => !Internet.isV4 t && Internet.isV6 t
  | none => Internet.isV4 t || Internet.isV6 t

end Conform

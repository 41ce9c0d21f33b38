import Conform.Pattern.Tree

/-!
# Matching

Matching by backtracking. A matcher takes a way through the text so far and a continuation for the
rest of the expression, and gives the first way to the end on which the continuation succeeds.

A way that is given up leaves a trail: the place of its last turn, from which a further step was
tried, and the bounds of groups it has set. Bounds set since a choice are undone inside a
repetition; outside of any, only those of groups that had not been met are. A condition inside its
own group can see what is left, and a possessive repetition goes on from the last turn of the round
that failed.

## Main definitions

- `Place` — a place in a text
- `Bounds`, `Capture` — the bounds of groups, and what they capture
- `Regex.run` — the matcher of an expression
- `Regex.matchAt?`, `Regex.search?` — matching at the beginning and anywhere
-/

namespace Conform

/-- A place in a text: what is before it, nearest first, what is after it, and how much is before
it. -/
structure Place where
  before : Text
  after : Text
  index : Nat

namespace Place

/-- The beginning of a text. -/
def start (t : Text) : Place := ⟨[], t, 0⟩

/-- The place after the next code point. -/
def next? (p : Place) : Option (CodePoint × Place) :=
  match p.after with
  | [] => none
  | c :: cs => some (c, ⟨c :: p.before, cs, p.index + 1⟩)

/-- The place some code points back, if there are so many. -/
def back? (p : Place) (count : Nat) : Option Place :=
  if count ≤ p.index then
    some ⟨p.before.drop count, (p.before.take count).reverse ++ p.after, p.index - count⟩
  else none

/-- Whether a word character stands on one side of the place but not on the other. -/
def atBoundary (p : Place) (repertoire : Repertoire) : Bool :=
  let isWord (t : Text) := match t with
    | [] => false
    | c :: _ => ClassName.word.has repertoire c
  isWord p.before != isWord p.after

/-- Whether an anchor holds at the place. In an empty text there is neither a boundary nor a place
that is none. -/
def holds (p : Place) : Anchor → Bool
  | .textStart => p.index == 0
  | .lineStart => p.before.isEmpty || p.before.head? == some Text.newline
  | .textEnd => p.after.isEmpty
  | .lineEnd => p.after.isEmpty || p.after.head? == some Text.newline
  | .finalEnd => p.after.isEmpty || p.after == [Text.newline]
  | .boundary repertoire negated =>
    if p.before.isEmpty && p.after.isEmpty then false else p.atBoundary repertoire != negated

/-- Whether the next code point tells that an atom cannot match. -/
def bars (p : Place) (a : Atom) : Bool :=
  a.isDirect && match p.after with
    | [] => true
    | c :: _ => !a.has c

end Place

/-- A captured part of a text. -/
structure Capture where
  start : Nat
  stop : Nat
  text : Text
  deriving DecidableEq, Repr

/-- The bounds of groups, the beginning and the end of each in the order of groups. A bound that is
none has been passed over by a later one; those past the end have not been met. -/
abbrev Bounds := List (Option Place)

namespace Bounds

/-- Sets a bound. -/
def put (bounds : Bounds) (n : Nat) (p : Place) : Bounds :=
  if n < bounds.length then bounds.set n (some p)
  else bounds ++ List.replicate (n - bounds.length) none ++ [some p]

/-- Sets the beginning of a group. -/
def opened (bounds : Bounds) (group : Nat) (p : Place) : Bounds := bounds.put (2 * group - 2) p

/-- Sets the end of a group. -/
def closed (bounds : Bounds) (group : Nat) (p : Place) : Bounds := bounds.put (2 * group - 1) p

/-- The beginning and the end of a group that has both. -/
def ofGroup? (bounds : Bounds) (group : Nat) : Option (Place × Place) :=
  match bounds[2 * group - 2]?, bounds[2 * group - 1]? with
  | some (some p), some (some q) => some (p, q)
  | _, _ => none

/-- Whether a group ends before it begins, as bounds of different rounds can have it. -/
def isCrossed (bounds : Bounds) (group : Nat) : Bool :=
  (bounds.ofGroup? group).any fun (p, q) => q.index < p.index

/-- What a group captures. -/
def capture? (bounds : Bounds) (group : Nat) : Option Capture :=
  (bounds.ofGroup? group).bind fun (p, q) =>
    if p.index ≤ q.index then
      some ⟨p.index, q.index, p.after.take (q.index - p.index)⟩
    else none

end Bounds

namespace Regex

/-- What a way leaves behind: its last turn and the bounds of groups. -/
structure Trail where
  turn : Place
  bounds : Bounds

/-- A way through a text: the place it has come to and its trail. -/
structure Way extends Trail where
  place : Place

/-- The end of a way, or the trail of the last of several ways that have been given up. -/
abbrev Outcome := Except Trail Way

/-- What happens after an expression has matched. -/
abbrev Continuation := Way → Outcome

/-- A way to match. -/
abbrev Matcher := Way → Continuation → Outcome

/-- A trail whose bounds are put back to earlier ones: all of them inside a repetition, otherwise
no more than those met since. -/
def Trail.restored (t : Trail) (looping : Bool) (earlier : Bounds) : Trail :=
  { t with bounds := if looping then earlier else t.bounds.take earlier.length }

/-- A trail with another last turn. -/
def Trail.turnedAt (t : Trail) (p : Place) : Trail := { t with turn := p }

/-- A way that turns where it has come to. -/
def Way.turned (w : Way) : Way := { w with turn := w.place }

/-- A way moved to a place. -/
def Way.moved (w : Way) (p : Place) : Way := { w with place := p }

/-- The continuation that ends the way. -/
def done : Continuation := fun w => .ok w.turned

/-- An outcome whose trail, if there is one, has its last turn at a place. -/
def Outcome.turnedAt (p : Place) (o : Outcome) : Outcome := o.mapError (·.turnedAt p)

/-- Tries an expression that does not go on: no turn is made if its first atom cannot match. -/
def attempt (r : Regex) (body : Matcher) : Matcher := fun w k =>
  if (r.opening none).any w.place.bars then .error w.toTrail else body w.turned k

/-- Whether another round is allowed after `count` rounds. -/
def mayRepeat (most : Option Nat) (count : Nat) : Bool :=
  match most with
  | some n => count < n
  | none => true

/-- Rounds of a body, as many as possible first. After the least number of rounds another one is
tried only if the last such one has moved on from `last`. -/
def greedyRounds (body : Matcher) (least : Nat) (most : Option Nat) :
    (fuel : Nat) → (count : Nat) → (last : Option Nat) → Matcher
  | 0, _, _, w, k => k w
  | fuel + 1, count, last, w, k =>
    let start := w.turned
    if count < least then
      (body start fun v => greedyRounds body least most fuel (count + 1) last v k).turnedAt w.place
    else if mayRepeat most count && last != some w.place.index then
      match body start fun v =>
          greedyRounds body least most fuel (count + 1) (some w.place.index) v k with
      | .ok result => .ok result
      | .error _ => (k start).turnedAt w.place
    else (k start).turnedAt w.place

/-- Rounds of a body, as few as possible first; `looping` tells whether they stand in a repetition
themselves. -/
def lazyRounds (body : Matcher) (looping : Bool) (least : Nat) (most : Option Nat) :
    (fuel : Nat) → (count : Nat) → (last : Option Nat) → Matcher
  | 0, _, _, w, k => k w
  | fuel + 1, count, last, w, k =>
    let start := w.turned
    if count < least then
      (body start fun v =>
        lazyRounds body looping least most fuel (count + 1) last v k).turnedAt w.place
    else
      match k start with
      | .ok result => .ok result
      | .error t =>
        let t := (t.restored looping w.bounds).turnedAt w.place
        if mayRepeat most count && last != some w.place.index then
          (body ⟨t, w.place⟩ fun v =>
            lazyRounds body looping least most fuel (count + 1) (some w.place.index) v
              k).turnedAt w.place
        else .error t

/-- The trail after as many rounds of a body as possible, each matched in its first way. It ends
where the last round has, or at the last turn of a round that failed after the least number. -/
def possessiveRounds (body : Matcher) (least : Nat) (most : Option Nat) :
    (fuel : Nat) → (count : Nat) → (last : Option Nat) → Trail → Except Trail Trail
  | 0, _, _, t => .ok t
  | fuel + 1, count, last, t =>
    if count < least then
      match body ⟨t, t.turn⟩ done with
      | .ok v => possessiveRounds body least most fuel (count + 1) last v.toTrail
      | .error u => .error u
    else if mayRepeat most count && last != some t.turn.index then
      match body ⟨t, t.turn⟩ done with
      | .ok v =>
        possessiveRounds body least most fuel (count + 1) (some t.turn.index) v.toTrail
      | .error u => .ok ⟨u.turn, t.bounds⟩
    else .ok t

/-- The most rounds that can be needed from a place. -/
def roundsNeeded (least : Nat) (p : Place) : Nat := least + p.after.length + 2

/-- Rounds of a body by their kind. -/
def roundsOf (greed : Greed) (looping : Bool) (least : Nat) (most : Option Nat) (body : Matcher) :
    Matcher := fun w k =>
  let fuel := roundsNeeded least w.place
  match greed with
  | .greedy => greedyRounds body least most fuel 0 none w k
  | .lazy => lazyRounds body looping least most fuel 0 none w k
  | .possessive =>
    match possessiveRounds body least most fuel 0 none w.turned.toTrail with
    | .ok t => k ⟨t, t.turn⟩
    | .error t => .error (t.turnedAt w.place)

/-- The places after each further code point that is matched by a unit, at most `most` of them,
the furthest first. -/
def unitPlaces (a : Atom) : (most : Option Nat) → (found : List Place) → (place : Place) →
    (after : Text) → List Place
  | _, found, p, [] => p :: found
  | most, found, p, c :: cs =>
    if most = some 0 || !a.has c then p :: found
    else
      unitPlaces a (most.map (· - 1)) (p :: found) ⟨c :: p.before, cs, p.index + 1⟩ cs

/-- Goes on from the first of some places from which the continuation succeeds. Each place is a
turn. -/
def firstWay (looping : Bool) (earlier : Bounds) (k : Continuation) :
    List Place → Trail → Outcome
  | [], t => .error t
  | p :: ps, t =>
    match k ⟨⟨p, t.bounds⟩, p⟩ with
    | .ok result => .ok result
    | .error u => firstWay looping earlier k ps (u.restored looping earlier)

/-- The furthest of some places, or the one given if there are none. -/
def furthest (p : Place) (places : List Place) : Place := places.head?.getD p

/-- Rounds of a single unit, where `next` is the atom that follows. The places where they can end
are listed, so that a long run takes no deep recursion; greedy rounds pass over the places from
which `next` cannot match. The last turn of rounds that are taken step by step is where the run of
the atom stops; lazy rounds see one step past their greatest number. -/
def unitRounds (greed : Greed) (looping : Bool) (next : Option Atom) (least : Nat)
    (most : Option Nat) (a : Atom) : Matcher := fun w k =>
  if (w.place.after.take least).length < least then .error w.toTrail
  else
    let places := unitPlaces a most [] w.place w.place.after
    let last := furthest w.place places
    let trail : Trail := ⟨if a.isStepwise then last else w.place, w.bounds⟩
    if places.length ≤ least then .error trail
    else
      let ends := places.take (places.length - least)
      match greed with
      | .greedy =>
        let mayGoOn (p : Place) : Bool := match next.bind Atom.only? with
          | some c => p.after.head? == some c
          | none => true
        firstWay looping w.bounds k (ends.filter mayGoOn) trail
      | .lazy =>
        let stop := if a.isStepwise then furthest last (unitPlaces a (some 1) [] last last.after)
          else last
        (firstWay looping w.bounds k ends.reverse trail).turnedAt stop
      | .possessive => k ⟨trail, last⟩

/-- Matches a text once more. -/
def repeatText (folding : Folding) : (t : Text) → Place → Option Place
  | [], p => some p
  | c :: cs, p =>
    match p.next? with
    | some (d, q) => if folding.key c == folding.key d then repeatText folding cs q else none
    | none => none

/-- The matcher of an expression, where `looping` tells whether it stands in a repetition and
`next` is the atom that follows it. -/
def run (looping : Bool) (next : Option Atom) : Regex → Matcher
  | .empty, w, k => k w
  | .unit a, w, k =>
    match w.place.next? with
    | some (c, q) => if a.has c then k (w.moved q) else .error w.toTrail
    | none => .error w.toTrail
  | .anchor a, w, k => if w.place.holds a then k w else .error w.toTrail
  | .seq r s, w, k => run looping (s.opening next) r w fun v => run looping next s v k
  | .alt r s, w, k =>
    match attempt r (run looping none r) w k with
    | .ok result => .ok result
    | .error t =>
      let v : Way := ⟨t.restored looping w.bounds, w.place⟩
      if s.isChoice then run looping none s v k
      else (attempt s (run looping none s) v k).mapError (·.restored looping w.bounds)
  | .rounds greed least most (.unit a), w, k => unitRounds greed looping next least most a w k
  | .rounds .possessive least most r, w, k =>
    roundsOf .possessive looping least most (run looping none r) w k
  | .rounds greed least most r, w, k => roundsOf greed looping least most (run true none r) w k
  | .group index r, w, k =>
    run looping none r { w with bounds := w.bounds.opened index w.place } fun v =>
      k { v with bounds := v.bounds.closed index v.place }
  | .scope r, w, k => run looping next r w k
  | .atomic r, w, k =>
    match run looping none r w.turned done with
    | .ok v => k v
    | .error t => .error (t.turnedAt w.place)
  | .backref folding index, w, k =>
    match (w.bounds.capture? index).bind fun c => repeatText folding c.text w.place with
    | some q => k (w.moved q)
    | none => .error w.toTrail
  | .ahead false r, w, k =>
    match run looping none r w.turned done with
    | .ok v => k (v.moved w.place)
    | .error t => .error t
  | .ahead true r, w, k =>
    match run looping none r w.turned done with
    | .ok v => .error v.toTrail
    | .error t => k ⟨t.restored looping w.bounds, w.place⟩
  | .behind false width r, w, k =>
    match w.place.back? width with
    | none => .error w.toTrail
    | some p =>
      match run looping none r (w.moved p).turned done with
      | .ok v => k (v.moved w.place)
      | .error t => .error t
  | .behind true width r, w, k =>
    match w.place.back? width with
    | none => k w
    | some p =>
      match run looping none r (w.moved p).turned done with
      | .ok v => .error v.toTrail
      | .error t => k ⟨t.restored looping w.bounds, w.place⟩
  | .ifGroup index yes no, w, k =>
    if (w.bounds.capture? index).isSome then
      run looping (match no with
        | .empty => next
        | _ => none) yes w k
    else run looping next no w k

/-- A match of a whole expression. -/
structure Found where
  start : Nat
  stop : Nat
  bounds : Bounds

/-- What a group has captured. -/
def Found.capture? (m : Found) (group : Nat) : Option Capture := m.bounds.capture? group

/-- Whether the match or one of its groups ends before it begins. -/
def Found.isCrossed (m : Found) (groups : Nat) : Bool :=
  m.stop < m.start || (List.range groups).any fun n => m.bounds.isCrossed (n + 1)

/-- The match that begins at a place. -/
def foundAt? (r : Regex) (p : Place) : Option Found :=
  match run false none r ⟨⟨p, []⟩, p⟩ done with
  | .ok w => some ⟨p.index, w.place.index, w.bounds⟩
  | .error _ => none

/-- The match at the beginning of a text. -/
def matchAt? (r : Regex) (t : Text) : Option Found := foundAt? r (Place.start t)

/-- The match at a place that has at least some code points after it. -/
def foundWithin? (r : Regex) (least : Nat) (p : Place) : Option Found :=
  if (p.after.take least).length < least then none else foundAt? r p

/-- The first match at a place or later, where at least some code points follow. -/
def searchFrom? (r : Regex) (least : Nat) : (before after : Text) → (index : Nat) → Option Found
  | before, [], index => foundWithin? r least ⟨before, [], index⟩
  | before, c :: cs, index =>
    match foundWithin? r least ⟨before, c :: cs, index⟩ with
    | some found => some found
    | none => searchFrom? r least (c :: before) cs (index + 1)

/-- The first match in a text, at a place where at least some code points follow. -/
def search? (r : Regex) (least : Nat) (t : Text) : Option Found := searchFrom? r least [] t 0

end Regex

end Conform

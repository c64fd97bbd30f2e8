import BasisCell.Lib.Lists
import BasisCell.Ipv4

/-!
# `BasisCell.Gobgp.Learned` — the stream of learned routes

`LearnedRouteStream` flattens table events into routes. It pops the paths of an event from the end of its buffer: the
events come in order, the paths of one event in reverse. An attribute without a value ends the search for a next hop.
Addresses are of any type with a parser.
-/

namespace BasisCell.Gobgp

open List

/-! ## The stream -/

inductive WatchEvent (Path : Type) where
  | table (paths : List Path)
  | peer

/-- The messages that are still to come (an error, an event, or a message without one), and the buffer. -/
structure LearnedRouteStream (Path : Type) where
  inner : List (Except Unit (Option (WatchEvent Path)))
  buffered : List Path := []

/-- A stream of table events. -/
def ofTables {Path : Type} (batches : List (List Path)) (buffered : List Path) : LearnedRouteStream Path :=
  ⟨batches.map fun paths => .ok (some (.table paths)), buffered⟩

section Stream

variable {Path Route : Type} (fromPath : Path → Option Route)

/-- Pops the buffer until a path gives a route. -/
def pop (buffered : List Path) : Option (Route × List Path) :=
  match buffered.reverse.dropWhile fun p => (fromPath p).isNone with
  | [] => none
  | p :: rest => (fromPath p).map (·, rest.reverse)

/-- `LearnedRouteStream::next`. -/
def next : List (Except Unit (Option (WatchEvent Path))) → List Path → Option (Route × LearnedRouteStream Path)
  | inner, buffered =>
    match pop fromPath buffered with
    | some (route, rest) => some (route, ⟨inner, rest⟩)
    | none =>
      match inner with
      | .ok (some (.table paths)) :: inner => next inner paths
      | .ok (some .peer) :: inner => next inner []
      | _ => none

/-- The first `n` routes of the stream. -/
def yields : Nat → LearnedRouteStream Path → List Route
  | 0, _ => []
  | n + 1, stream =>
    match next fromPath stream.inner stream.buffered with
    | none => []
    | some (route, stream) => route :: yields n stream

variable {fromPath} {buffered : List Path}

theorem pop_spec : match pop fromPath buffered with
    | none => buffered.reverse.filterMap fromPath = []
    | some (route, rest) => buffered.reverse.filterMap fromPath = route :: rest.reverse.filterMap fromPath := by
  unfold pop
  generalize buffered.reverse = paths
  induction paths with
  | nil => rfl
  | cons p paths ih =>
    cases hp : fromPath p with
    | none =>
      rw [dropWhile_cons_of_pos (by rw [hp]; rfl), filterMap_cons_none hp]
      exact ih
    | some route =>
      rw [dropWhile_cons_of_neg (by rw [hp]; nofun), filterMap_cons_some hp]
      simp only [hp, Option.map_some, reverse_reverse]

/-- What is still to be yielded: the buffer from its end, then every table event from its end. -/
theorem next_tables (batches : List (List Path)) (buffered : List Path) :
    match next fromPath (ofTables batches buffered).inner buffered with
    | none => (buffered.reverse ++ batches.flatMap reverse).filterMap fromPath = []
    | some (route, stream) => ∃ batches' buffered', stream = ofTables batches' buffered' ∧
      (buffered.reverse ++ batches.flatMap reverse).filterMap fromPath =
        route :: (buffered'.reverse ++ batches'.flatMap reverse).filterMap fromPath := by
  have hpop := @pop_spec _ _ fromPath buffered
  induction batches generalizing buffered with
  | nil =>
    unfold next
    cases hres : pop fromPath buffered with
    | none =>
      rw [hres] at hpop
      show (buffered.reverse ++ []).filterMap fromPath = []
      rwa [append_nil]
    | some found =>
      rw [hres] at hpop
      exact ⟨[], found.2, rfl, by simpa using hpop⟩
  | cons paths batches ih =>
    unfold next
    cases hres : pop fromPath buffered with
    | none =>
      rw [hres] at hpop
      rw [filterMap_append, show buffered.reverse.filterMap fromPath = [] from hpop, nil_append, flatMap_cons]
      exact ih paths pop_spec
    | some found =>
      rw [hres] at hpop
      refine ⟨paths :: batches, found.2, rfl, ?_⟩
      rw [filterMap_append, show buffered.reverse.filterMap fromPath = _ from hpop, filterMap_append, cons_append]

theorem yields_tables (batches : List (List Path)) (n : Nat) : yields fromPath n (ofTables batches buffered) =
    ((buffered.reverse ++ batches.flatMap reverse).filterMap fromPath).take n := by
  induction n generalizing batches buffered with
  | zero => rfl
  | succ n ih =>
    have hnext := @next_tables _ _ fromPath batches buffered
    unfold yields
    show (match next fromPath (ofTables batches buffered).inner buffered with
      | none => []
      | some (route, stream) => route :: yields fromPath n stream) = _
    cases hres : next fromPath (ofTables batches buffered).inner buffered with
    | none =>
      rw [hres] at hnext
      rw [show filterMap fromPath _ = [] from hnext, take_nil]
    | some found =>
      rw [hres] at hnext
      obtain ⟨batches', buffered', hstream, hqueue⟩ := hnext
      rw [hqueue, take_succ_cons, ← ih batches', ← hstream]

end Stream

/-! ## The routes of paths -/

inductive Attr where
  | nextHop (nextHop : String)
  | mpReach (nextHops : List String)
  | other

inductive Nlri where
  | ofPrefix (addr : String) (prefixLen : Nat)
  | other

/-- A path of a table event. A field that a message leaves out is `none`. -/
structure Path where
  nlri : Option Nlri
  pattrs : List (Option Attr)
  isWithdraw : Bool

structure LearnedRoute (Addr : Type) where
  dst : String
  prefixLen : Nat
  nextHop : Addr
  isWithdraw : Bool
  deriving DecidableEq

def Attr.hops : Attr → List String
  | nextHop hop => [hop]
  | mpReach hops => hops
  | other => []

/-- The next hops that attributes carry. -/
def attrHops (attrs : List (Option Attr)) : List String := (attrs.filterMap id).flatMap Attr.hops

section Routes

variable {Addr : Type} (parse : String → Option Addr) (isIpv4 : Addr → Bool)

/-- `next_hop_from_attrs`. -/
def nextHopFromAttrs : List (Option Attr) → Option Addr
  | [] => none
  | none :: _ => none
  | some attr :: attrs => (attr.hops.findSome? parse).or (nextHopFromAttrs attrs)

/-- The route of an IPv4 prefix with this next hop. -/
def Path.route (p : Path) (nextHop : Option Addr) : Option (LearnedRoute Addr) :=
  match p.nlri with
  | some (.ofPrefix addr prefixLen) =>
    if (parse addr).any isIpv4 then
      nextHop.map fun nextHop => ⟨s!"{addr}/{prefixLen}", prefixLen, nextHop, p.isWithdraw⟩
    else none
  | _ => none

/-- `LearnedRoute::from_path`. -/
def Path.fromPath (p : Path) : Option (LearnedRoute Addr) := p.route parse isIpv4 (nextHopFromAttrs parse p.pattrs)

/-- What it is meant to be: the first next hop that parses, in any attribute. -/
def Path.usable (p : Path) : Option (LearnedRoute Addr) := p.route parse isIpv4 ((attrHops p.pattrs).findSome? parse)

/-- The path is usable, but has no next hop before an attribute without a value. -/
def Path.hidden (p : Path) : Bool :=
  (p.usable parse isIpv4).isSome && ((attrHops (p.pattrs.takeWhile Option.isSome)).findSome? parse).isNone

variable {parse} {isIpv4}

theorem nextHopFromAttrs_eq (attrs : List (Option Attr)) :
    nextHopFromAttrs parse attrs = (attrHops (attrs.takeWhile Option.isSome)).findSome? parse := by
  induction attrs with
  | nil => rfl
  | cons attr attrs ih =>
    cases attr with
    | none => rfl
    | some attr =>
      rw [nextHopFromAttrs, ih, takeWhile_cons_of_pos rfl]
      simp only [attrHops, filterMap_cons, id_eq, flatMap_cons, findSome?_append]

/-- A path that is not hidden gives the route it is meant to give. -/
theorem fromPath_cases (p : Path) : p.hidden parse isIpv4 = false ∧ p.fromPath parse isIpv4 = p.usable parse isIpv4 ∨
    p.hidden parse isIpv4 = true ∧ p.fromPath parse isIpv4 = none ∧ p.usable parse isIpv4 ≠ none := by
  have hsplit : attrHops p.pattrs = attrHops (p.pattrs.takeWhile Option.isSome) ++
      attrHops (p.pattrs.dropWhile Option.isSome) := by
    unfold attrHops
    rw [← flatMap_append, ← filterMap_append, takeWhile_append_dropWhile]
  unfold Path.hidden Path.fromPath
  rw [nextHopFromAttrs_eq]
  cases hfront : (attrHops (p.pattrs.takeWhile Option.isSome)).findSome? parse with
  | some nextHop =>
    refine .inl ⟨Bool.and_false _, ?_⟩
    rw [Path.usable, hsplit, findSome?_append, hfront, Option.some_or]
  | none =>
    have hnone : p.route parse isIpv4 none = none := by
      unfold Path.route
      split
      · split <;> rfl
      · rfl
    rw [hnone]
    cases husable : p.usable parse isIpv4 with
    | none => exact .inl ⟨rfl, rfl⟩
    | some route => exact .inr ⟨rfl, rfl, nofun⟩

end Routes

/-- **Routes come in the order of the paths** exactly if every table event gives the same routes from its end, and
    none of its paths hides its next hop. -/
theorem yields_in_order_iff {Addr : Type} (parse : String → Option Addr) (isIpv4 : Addr → Bool)
    (batches : List (List Path)) :
    (∀ n, yields (Path.fromPath parse isIpv4) n (ofTables batches []) =
      (batches.flatMap fun batch => batch.filterMap (Path.usable parse isIpv4)).take n) ↔
    ∀ batch ∈ batches, (∀ p ∈ batch, p.hidden parse isIpv4 = false) ∧
      (batch.filterMap (Path.usable parse isIpv4)).reverse = batch.filterMap (Path.usable parse isIpv4) := by
  have hshown : ∀ p : Path, p.fromPath parse isIpv4 = p.usable parse isIpv4 ↔ p.hidden parse isIpv4 = false := by
    intro p
    rcases @fromPath_cases _ parse isIpv4 p with ⟨hshown, hsame⟩ | ⟨hhidden, hnone, hsome⟩
    · exact iff_of_true hsame hshown
    · exact iff_of_false (fun hsame => hsome (hsame.symm.trans hnone)) (by rw [hhidden]; nofun)
  have hdrops := @flatMap_reverse_iff _ _ _ _ batches fun p =>
    (@fromPath_cases _ parse isIpv4 p).imp And.right And.right
  simp only [hshown] at hdrops
  rw [← hdrops]
  simp only [yields_tables, reverse_nil, nil_append, filterMap_flatMap, filterMap_reverse]
  exact ⟨eq_of_forall_take, fun h n => by rw [h]⟩

/-- Two announcements of a prefix in one table event come in the wrong order, so the older one is applied last. -/
theorem older_route_yielded_last :
    let path (nextHop : String) : Path := ⟨some (.ofPrefix "10.0.0.5" 32), [some (.nextHop nextHop)], false⟩
    yields (Path.fromPath Ipv4Addr.parse fun _ => true) 3 (ofTables [[path "10.0.0.1", path "10.0.0.2"]] []) =
      [⟨"10.0.0.5/32", 32, 0x0A000002, false⟩, ⟨"10.0.0.5/32", 32, 0x0A000001, false⟩] := by
  decide +kernel

end BasisCell.Gobgp

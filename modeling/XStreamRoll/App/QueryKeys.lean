/-
The dashboard's list of streams, and the key that its results are cached under.

`useStreamList` asks for a page, a limit, a search text and a tag, and keeps the answer
under `streamKeys.list` of the same four.  A text that is empty counts as none.  Two keys
are one entry when they have the same parts in the same order; the JSON text that the cache
compares tells a number from a text.
-/
import XStreamRoll.Transition

namespace XStreamRoll
namespace App

open Transition

structure StreamListParams where
  page : Option Int := none
  limit : Option Int := none
  q : Option String := none
  tag : Option String := none

/-- `text ? text : undefined` -/
def truthy (text : Option String) : Option String := text.filter (· ≠ "")

/-! ## The request -/

/-- `url.searchParams`, in the order they are set. -/
abbrev SearchParams := List (String × String)

/-- `if (n) url.searchParams.set(name, String(n))` -/
def setNumber (name : String) (n : Int) : SearchParams := if n = 0 then [] else [(name, toString n)]

/-- `if (text) url.searchParams.set(name, text)` -/
def setText (name : String) (text : Option String) : SearchParams :=
  ((truthy text).map fun text => (name, text)).toList

/-- The parameters of the `GET /streams` that `listStreams` makes. -/
def listStreams (page limit : Int) (q tag : Option String) : SearchParams :=
  setNumber "page" page ++ setNumber "limit" limit ++ setText "q" q ++ setText "tag" tag

/-! ## The key -/

inductive KeyPart
  | text (text : String)
  | number (n : Int)
  deriving DecidableEq

abbrev QueryKey := List KeyPart

namespace StreamKeys

def all : QueryKey := [.text "streams"]

def lists : QueryKey := all ++ [.text "list"]

def list (page limit : Int) (q tag : Option String) : QueryKey :=
  lists ++ [.number page, .number limit] ++ (truthy q).toList.map .text ++
    (truthy tag).toList.map .text

end StreamKeys

namespace StreamListParams

def pageOrDefault (params : StreamListParams) : Int := params.page.getD 1

def limitOrDefault (params : StreamListParams) : Int := params.limit.getD 20

/-- The `queryKey` of `useStreamList`. -/
def queryKey (params : StreamListParams) : QueryKey :=
  StreamKeys.list params.pageOrDefault params.limitOrDefault params.q params.tag

/-- What its `queryFn` sends. -/
def sent (params : StreamListParams) : SearchParams :=
  listStreams params.pageOrDefault params.limitOrDefault params.q params.tag

/-- The list is narrowed by a search text and not by a tag. -/
def SearchesOnly (text : String) (params : StreamListParams) : Prop :=
  truthy params.q = some text ∧ truthy params.tag = none

def TagsOnly (text : String) (params : StreamListParams) : Prop :=
  truthy params.q = none ∧ truthy params.tag = some text

/-- The search text of one list is the tag of the other. -/
def Collides (a b : StreamListParams) : Prop :=
  a.pageOrDefault = b.pageOrDefault ∧ a.limitOrDefault = b.limitOrDefault ∧
    ∃ text, (SearchesOnly text a ∧ TagsOnly text b) ∨ (TagsOnly text a ∧ SearchesOnly text b)

/-- Two pairs of optional texts with the same texts in order are the same, unless each has one text
and in another place. -/
theorem toList_append_eq_iff {q tag q' tag' : Option String} :
    q.toList ++ tag.toList = q'.toList ++ tag'.toList ↔
      (q = q' ∧ tag = tag') ∨
        ∃ text, (q = some text ∧ tag = none ∧ q' = none ∧ tag' = some text) ∨
          (q = none ∧ tag = some text ∧ q' = some text ∧ tag' = none) := by
  cases q <;> cases tag <;> cases q' <;> cases tag' <;> simp
  case none.some.some.none => exact eq_comm
  case some.none.none.some => exact eq_comm

theorem queryKey_eq_iff {a b : StreamListParams} :
    a.queryKey = b.queryKey ↔
      (a.pageOrDefault = b.pageOrDefault ∧ a.limitOrDefault = b.limitOrDefault ∧
        truthy a.q = truthy b.q ∧ truthy a.tag = truthy b.tag) ∨ Collides a b := by
  have htexts : ∀ x y : List String, x.map KeyPart.text = y.map KeyPart.text ↔ x = y := fun x y =>
    (List.map_injective_iff.mpr fun _ _ h => KeyPart.text.inj h).eq_iff
  have hsplit : a.queryKey = b.queryKey ↔
      a.pageOrDefault = b.pageOrDefault ∧ a.limitOrDefault = b.limitOrDefault ∧
        (truthy a.q).toList ++ (truthy a.tag).toList =
          (truthy b.q).toList ++ (truthy b.tag).toList := by
    rw [← htexts]
    simp [queryKey, StreamKeys.list]
  rw [hsplit, toList_append_eq_iff, Collides]
  simp only [SearchesOnly, TagsOnly, and_or_left, and_assoc]

theorem sent_congr {a b : StreamListParams} (hpage : a.pageOrDefault = b.pageOrDefault)
    (hlimit : a.limitOrDefault = b.limitOrDefault) (hq : truthy a.q = truthy b.q)
    (htag : truthy a.tag = truthy b.tag) : a.sent = b.sent := by
  rw [sent, sent, listStreams, listStreams, setText, setText, setText, setText, hpage, hlimit, hq,
    htag]

/-- A search is sent as `q` and a tag as `tag`. -/
theorem sent_ne_of_collides {a b : StreamListParams} (h : Collides a b) : a.sent ≠ b.sent := by
  obtain ⟨hpage, hlimit, text, ⟨⟨hq, htag⟩, ⟨hq', htag'⟩⟩ | ⟨⟨hq, htag⟩, ⟨hq', htag'⟩⟩⟩ := h
  · simp [sent, listStreams, setText, hpage, hlimit, hq, htag, hq', htag']
  · simp [sent, listStreams, setText, hpage, hlimit, hq, htag, hq', htag']

end StreamListParams

/-! ## The cache -/

/-- The entries, and how many requests the API has answered. -/
structure QueryCache (R : Type) where
  answered : Nat := 0
  data : QueryKey → Option R := fun _ => none

namespace QueryCache

variable {R : Type} {server : Nat → SearchParams → R}

/-- A list is fetched, and the answer kept under its key. -/
def fetched (server : Nat → SearchParams → R) (cache : QueryCache R) (params : StreamListParams) :
    Option (QueryCache R) :=
  some
    { answered := cache.answered + 1
      data := fun key =>
        if key = params.queryKey then some (server cache.answered params.sent) else cache.data key }

/-- Whatever the view finds is an answer to its own request. -/
def ShowsOwn (server : Nat → SearchParams → R) (view : StreamListParams) (cache : QueryCache R) :
    Prop :=
  ∀ data, cache.data view.queryKey = some data → ∃ n, data = server n view.sent

theorem ShowsOwn.fetched {view params : StreamListParams} {cache cache' : QueryCache R}
    (h : ShowsOwn server view cache)
    (hsame : view.queryKey = params.queryKey → view.sent = params.sent)
    (hstep : cache.fetched server params = some cache') : ShowsOwn server view cache' := by
  cases hstep
  intro data hdata
  dsimp only at hdata
  split at hdata
  · next hkey =>
    rw [hsame hkey, ← Option.some.inj hdata]
    exact ⟨cache.answered, rfl⟩
  · exact h data hdata

end QueryCache

open StreamListParams QueryCache

theorem sameKey_sameRequest_iff (a b : StreamListParams) :
    (a.queryKey = b.queryKey → a.sent = b.sent) ↔ ¬Collides a b := by
  constructor
  · exact fun hsame hcollides =>
      sent_ne_of_collides hcollides (hsame (queryKey_eq_iff.mpr (.inr hcollides)))
  · intro hnot hkey
    obtain ⟨hpage, hlimit, hq, htag⟩ := (queryKey_eq_iff.mp hkey).resolve_right hnot
    exact sent_congr hpage hlimit hq htag

/-- Lists of one key send one request, exactly unless one searches for what the other has as its
tag.  In any order of fetches by lists that do not so collide with it, a view shows an answer
to its own request. -/
theorem queryKeys_separate (R : Type) :
    (∀ a b : StreamListParams, (a.queryKey = b.queryKey → a.sent = b.sent) ↔ ¬Collides a b) ∧
      ∀ (server : Nat → SearchParams → R) (view : StreamListParams) (calls : List StreamListParams),
        (∀ call ∈ calls, ¬Collides view call) →
          ∀ cache, run (fetched server) {} calls = some cache → ShowsOwn server view cache := by
  refine ⟨sameKey_sameRequest_iff, fun server view calls hcalls cache hrun => ?_⟩
  refine run_invariant_of (fun _ call _ hown hcall hstep => hown.fetched hcall hstep) ?_
    (fun call hmem => (sameKey_sameRequest_iff view call).mpr (hcalls call hmem)) hrun
  intro data hdata
  cases hdata

/-- The search for a text, and the lists with the tag of that name. -/
def footballSearch : StreamListParams where
  q := some "football"

def footballTag : StreamListParams where
  tag := some "football"

/-- The second page of that search. -/
def footballSearchNext : StreamListParams where
  page := some 2
  q := some "football"

/-- The view of the tag is fetched before and after the second page of the search, and shows
its own answer. -/
theorem queryKeys_separate_nextPage :
    ∃ cache, run (fetched Prod.mk) {} [footballTag, footballSearchNext, footballTag] = some cache ∧
      (cache.data footballTag.queryKey).map Prod.fst = some 2 ∧
      ShowsOwn Prod.mk footballTag cache := by
  obtain ⟨pairs, runs⟩ := queryKeys_separate (Nat × SearchParams)
  have hown : ¬Collides footballTag footballTag := (pairs footballTag footballTag).mp fun _ => rfl
  have hnext : ¬Collides footballTag footballSearchNext := fun h => absurd h.1 (by decide)
  exact ⟨_, rfl, rfl, runs Prod.mk footballTag [footballTag, footballSearchNext, footballTag]
    (by simp [hown, hnext]) _ rfl⟩

/-- The view of the tag shows what the search found. -/
theorem footballTag_shows_search :
    footballSearch.queryKey = footballTag.queryKey ∧ footballSearch.sent ≠ footballTag.sent ∧
      ((fetched (fun _ sent => sent) {} footballSearch).bind fun cache =>
        cache.data footballTag.queryKey) = some footballSearch.sent := by
  refine ⟨by decide, by decide, rfl⟩

end App
end XStreamRoll

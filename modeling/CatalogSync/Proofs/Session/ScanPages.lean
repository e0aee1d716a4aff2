import CatalogSync.Proofs.Session.Resuming
import CatalogSync.Proofs.Session.Server

/-!
# The pages of an open scan

Over tables that stay as they are, the pages of an open scan put end to end are its rows in their
order, whatever connections were lost meanwhile, and a page is short only when nothing is left.
-/

namespace CatalogSync

open ChangeRow

variable {φ ω : Type}

/-- The question concerns no scan, or only reads beside one. -/
inductive SourceCall.IsAside : SourceCall → Prop
  | probe (entity : Entity) : IsAside (probe entity)
  | enrich (aggregate : Aggregate) (ids : List String) : IsAside (enrich aggregate ids)
  | ping : IsAside ping

/-- What comes of a scan that was opened: the pages it has handed out so far, whatever else was
asked in between and however often a call gave up. -/
inductive Source.Pages {σ : Type} (source : Source σ) (selection : Selection) (start : Cursor)
    (root : Option Cursor) : List (List ChangeRow) → σ → Prop
  | opened {s t : σ} (hask : source.ask (.openScan selection start root) s = (.ok (), t)) :
    Pages source selection start root [] t
  | page {pages : List (List ChangeRow)} {s t : σ} (h : Pages source selection start root pages s)
    {count : Nat} {page : List ChangeRow} (hask : source.ask (.fetch count) s = (.ok page, t)) :
    Pages source selection start root (pages ++ [page]) t
  | gaveUp {pages : List (List ChangeRow)} {s t : σ} (h : Pages source selection start root pages s)
    {count : Nat} {e : SourceError} (hask : source.ask (.fetch count) s = (.error e, t)) :
    Pages source selection start root pages t
  | aside {pages : List (List ChangeRow)} {s t : σ} (h : Pages source selection start root pages s)
    {c : SourceCall} (hc : c.IsAside) {o : Outcome SourceError c.Answer} (ho : o ≠ .unfinished)
    (hask : source.ask c s = (o, t)) : Pages source selection start root pages t

namespace Database.Serves

open RelationalSource

variable [Growth φ] {r : RelationalSource φ} {db : Database ω}
  {rows : Selection → Option Timestamp → List ChangeRow} {cursor : ω → Option (List ChangeRow)}
  {scan : OpenScan} {allowance : Nat} {s : Session ω}

/-- The next page is what is due, and a fetch that gives up leaves the scan where it stands. -/
theorem ends_fetch (hdb : db.Serves rows cursor) (hscan : scan.IsUnderway rows) (count : Nat)
    (hs : s.StandsAt db rows cursor scan) :
    ((r.source db allowance).ask (.fetch count)).Ends
      (fun page t => page = (after scan.last (scan.result rows)).take count ∧
        t.StandsAt db rows cursor (scan.handing page))
      (fun e t => Session.Spares db rows cursor scan (fun _ => r.IsMisaddressed)
        ((∀ limit, r.policy.maxAttempts = some limit → allowance ≤ limit) ∨
          allowance < (scan.result rows).length + 2) e t ∧
        ∀ e', e = some e' → Retryable.isTransient e' → r.policy.maxAttempts ≠ none) s := by
  refine ends_retrying_spared (fun t ht => ?_) .inl hs
  refine (hdb.ends_fetchOnce hscan (fun h _ => h) allowance count ht).mono (fun _ _ => id) ?_
  rintro (_ | e) t ht
  · exact .inr ht
  · exact ht

/-- What else is asked beside a scan leaves it where it stands. -/
theorem ends_aside (hdb : db.Serves rows cursor) (hscan : scan.isDeclared = false) {c : SourceCall}
    (hc : c.IsAside) (hs : s.StandsAt db rows cursor scan) :
    ((r.source db allowance).ask c).Ends (fun _ t => t.StandsAt db rows cursor scan)
      (fun e t => e = none ∨ t.StandsAt db rows cursor scan) s := by
  have hspared : ∀ e t, Session.Spares db rows cursor scan (fun _ => True) True e t →
      e = none ∨ t.StandsAt db rows cursor scan := by
    rintro (_ | e) t ht
    · exact .inl rfl
    · exact .inr ht.1
  have hretried : ∀ {α : Type} (operation : String) (attempt : Call SourceError (Session ω) α),
      (∀ t : Session ω, t.StandsAt db rows cursor scan →
        attempt.Ends (fun _ t => t.StandsAt db rows cursor scan)
          (Session.Misses db rows cursor scan (fun _ => True) True) t) →
      (r.retrying db operation allowance attempt).Ends (fun _ t => t.StandsAt db rows cursor scan)
        (fun e t => e = none ∨ t.StandsAt db rows cursor scan) s := by
    intro _ operation attempt hattempt
    exact (ends_retrying_spared hattempt (fun _ => trivial) hs).mono (fun _ _ => id) fun e t ht =>
      hspared e t ht.1
  cases hc with
  | probe entity =>
    refine hretried _ _ fun t ht => ?_
    rw [probeOnce, Call.ends_bind, ends_client?]
    split
    · exact ht
    · rw [Call.ends_bind]
      exact (hdb.ends_ask hscan (.probe entity) (fun _ h => by cases h) ht).imp fun _ _ ht' =>
        ends_reading hscan ht'
  | enrich aggregate ids =>
    simp only [source]
    split
    · exact hs
    · refine hretried _ _ fun t ht => ?_
      rw [enrichOnce, Call.ends_bind]
      exact (hdb.ends_ask hscan (.enrich aggregate ids) (fun _ h => by cases h) ht).imp
        fun _ _ ht' => ends_reading hscan ht'
  | ping =>
    refine (ends_dropping_spared ?_).mono (fun _ _ => id) hspared
    rw [RelationalSource.ping, Call.ends_bind]
    refine (hdb.ends_ask hscan .ping (fun _ h => by cases h) hs).imp fun _ t ht => ?_
    split
    · exact ht
    · exact ⟨ht.holds hscan, .inr ⟨trivial, ht⟩⟩

end Database.Serves

namespace OpenScan

/-- A scan of which nothing was handed out. -/
def opened (selection : Selection) (start : Cursor) (root : Option Cursor) : OpenScan :=
  ⟨selection, start.timestamp, root.map Cursor.timestamp, none, false⟩

/-- The scan behind some pages. -/
def behind (scan : OpenScan) (pages : List (List ChangeRow)) : OpenScan :=
  { scan with last := pages.flatten.getLast? }

/-- Being behind some pages changes nothing of what the scan selects. -/
@[simp] theorem result_behind (rows : Selection → Option Timestamp → List ChangeRow)
    (scan : OpenScan)
    (pages : List (List ChangeRow)) : (scan.behind pages).result rows = scan.result rows := rfl

/-- A scan that hands out one more page is behind it, too. -/
theorem behind_handing (scan : OpenScan) (pages : List (List ChangeRow)) (page : List ChangeRow) :
    (scan.behind pages).handing page = scan.behind (pages ++ [page]) := by
  have hlast : (page.getLast? <|> pages.flatten.getLast?) = (pages ++ [page]).flatten.getLast? := by
    rw [List.flatten_concat, List.getLast?_append]
    cases page.getLast? <;> rfl
  exact congrArg (fun last => { scan with last }) hlast

end OpenScan

namespace RelationalSource

variable [Growth φ] {r : RelationalSource φ} {db : Database ω}
  {rows : Selection → Option Timestamp → List ChangeRow} {cursor : ω → Option (List ChangeRow)}
  {allowance : Nat} {selection : Selection} {start : Cursor} {root : Option Cursor}
  {pages : List (List ChangeRow)} {s : Session ω}

/-- A scan that is opened is held, with nothing handed out. -/
theorem scan_of_opened {s t : Session ω}
    (hask : (r.source db allowance).ask (.openScan selection start root) s = (.ok (), t)) :
    t.client.scan = some (.opened selection start root) := by
  obtain ⟨_, u, -, hhold⟩ := Call.bind_eq_ok_iff.1 hask
  split at hhold
  · cases hhold
    rfl
  · cases hhold

/-- What was handed out stands among the rows of the scan. -/
theorem isUnderway_behind (hdb : db.Serves rows cursor)
    (h : IsPaged ((OpenScan.opened selection start root).result rows) pages) :
    ((OpenScan.opened selection start root).behind pages).IsUnderway rows where
  undeclared := rfl
  reached _ hlast :=
    (h.flatten_sublist ((hdb.ordered _ _).filter _)).mem (List.mem_of_getLast? hlast)

/-- The pages are cut one after the other, and the scan stands behind them. -/
theorem standsAt_of_pages (hdb : db.Serves rows cursor)
    (h : (r.source db allowance).Pages selection start root pages s) :
    IsPaged ((OpenScan.opened selection start root).result rows) pages ∧
      s.StandsAt db rows cursor ((OpenScan.opened selection start root).behind pages) := by
  induction h with
  | opened hask => exact ⟨.nil, .waiting (scan_of_opened hask)⟩
  | @page pages s t h count page hask ih =>
    obtain ⟨hpaged, hstands⟩ := ih
    obtain ⟨hpage, hstands'⟩ :=
      (hdb.ends_fetch (isUnderway_behind hdb hpaged) count hstands).of_ok hask
    rw [OpenScan.behind_handing] at hstands'
    rw [hpage] at hstands' ⊢
    exact ⟨hpaged.snoc count, hstands'⟩
  | gaveUp h hask ih =>
    obtain ⟨hpaged, hstands⟩ := ih
    exact ⟨hpaged,
      ((hdb.ends_fetch (isUnderway_behind hdb hpaged) _ hstands).of_error hask).1.1⟩
  | @aside pages s t h c hc o ho hask ih =>
    obtain ⟨hpaged, hstands⟩ := ih
    have hends : ((r.source db allowance).ask c).Ends _ _ s := hdb.ends_aside rfl hc hstands
    refine ⟨hpaged, ?_⟩
    rcases o with a | e | _
    · exact hends.of_ok hask
    · exact (hends.of_error hask).resolve_left (Option.some_ne_none e)
    · exact absurd rfl ho

/-- The pages of an open scan, put end to end, are its rows in their order, none more often than it
is there; what was not handed out comes after them, but for further copies of the rows that pages
end with. The next page is what is due, however often the connection was lost, and it is short only
if it leaves nothing. -/
theorem hands_out_scan (r : RelationalSource φ) (hdb : db.Serves rows cursor) (allowance : Nat)
    (h : (r.source db allowance).Pages selection start root pages s) :
    let all :=
      (rows selection (if selection.isRelated then root.map Cursor.timestamp else none)).filter
      (start.timestamp ≤ ·.timestamp)
    pages.flatten.Sublist all ∧
    (∀ row ∈ all, row ∈ pages.flatten ∨ ∀ handed ∈ pages.flatten, handed < row) ∧
    (∀ row ∈ pages.flatten, (∀ page ∈ pages, page.getLast? ≠ some row) →
      pages.flatten.count row = all.count row) ∧
    (∀ count page t, (r.source db allowance).ask (.fetch count) s = (.ok page, t) →
      page = (all.filter fun row => ∀ handed ∈ pages.flatten, handed < row).take count ∧
      page.length ≤ count ∧
      (page.length < count → ∀ row ∈ all, row ∈ pages.flatten ++ page)) ∧
    (∀ count e t, (r.source db allowance).ask (.fetch count) s = (.error e, t) →
      e.isTransient = true ∧ r.policy.maxAttempts ≠ none ∨ r.IsMisaddressed) ∧
    ∀ count limit t, r.policy.maxAttempts = some limit → limit < allowance →
      all.length + 2 ≤ allowance →
      (r.source db allowance).ask (.fetch count) s ≠ (.unfinished, t) := by
  intro all
  have hsorted : all.Pairwise (· ≤ ·) := (hdb.ordered _ _).filter _
  obtain ⟨hpaged, hstands⟩ := standsAt_of_pages hdb h
  have hsub : pages.flatten.Sublist all := hpaged.flatten_sublist hsorted
  have hfetch : ∀ count, ((r.source db allowance).ask (.fetch count)).Ends _ _ s := fun count =>
    hdb.ends_fetch (isUnderway_behind hdb hpaged) count hstands
  have hafter : after pages.flatten.getLast? all =
      all.filter fun row => ∀ handed ∈ pages.flatten, handed < row :=
    after_getLast?_eq_filter (hsorted.sublist hsub) all
  have hgap : ∀ row ∈ all, row ∈ pages.flatten ∨
      row ∈ all.filter fun row => ∀ handed ∈ pages.flatten, handed < row := fun row hrow =>
    hafter ▸ hpaged.mem_flatten_or_mem_after hsorted hrow
  refine ⟨hsub, fun row hrow => ?_, fun row hrow => hpaged.count_flatten hsorted hrow, ?_, ?_, ?_⟩
  · exact (hgap row hrow).imp_right fun hmem => by simpa using (List.mem_filter.1 hmem).2
  · intro count page t hask
    have hpage : page = (all.filter fun row => ∀ handed ∈ pages.flatten, handed < row).take count :=
      hafter ▸ ((hfetch count).of_ok hask).1
    refine ⟨hpage, hpage ▸ List.length_take_le .., fun hshort row hrow => ?_⟩
    rw [List.mem_append]
    refine (hgap row hrow).imp_right fun hmem => ?_
    rw [hpage, List.length_take] at hshort
    rwa [hpage, List.take_of_length_le (by omega)]
  · intro count e t hask
    obtain ⟨⟨-, hwhy⟩, hlimit⟩ := (hfetch count).of_error hask
    exact hwhy.imp_left fun htransient => ⟨htransient, hlimit e rfl htransient⟩
  · intro count limit t hmax hlt hlength hask
    rcases ((hfetch count).of_unfinished hask).1 with hnever | hshort
    · exact absurd (hnever limit hmax) (not_le.2 hlt)
    · exact absurd hlength (not_le.2 hshort)

end RelationalSource

namespace Catalog

/-- The rows that the scans of a selection list, whatever they start from. -/
def rowsOf (c : Catalog) (selection : Selection) (root : Option Timestamp) : List ChangeRow :=
  ((c.joinedRows selection).filter fun r =>
    ∀ bound ∈ root, ∀ film ∈ c.stamp? .filmWork r.rootId, film ≤ bound).insertionSort
      fun a b => a.order b ≠ .gt

/-- The rows that are selected come in their order. -/
theorem rowsOf_ordered (c : Catalog) (selection : Selection) (root : Option Timestamp) :
    (c.rowsOf selection root).Pairwise (· ≤ ·) :=
  (List.pairwise_insertionSort _ _).imp fun {a b} h => (ChangeRow.le_iff a b).2 h

/-- A scan lists those of them that are not before its start. -/
theorem scanRows_eq (c : Catalog) (selection : Selection) (start : Timestamp)
    (root : Option Timestamp) : c.scanRows selection ⟨start, none⟩ (root.map (⟨·, none⟩)) =
      (c.rowsOf selection root).filter (start ≤ ·.timestamp) := by
  have hscan : (c.scanRows selection ⟨start, none⟩ (root.map (⟨·, none⟩))).Pairwise (· ≤ ·) :=
    (List.pairwise_insertionSort _ _).imp fun {a b} h => (ChangeRow.le_iff a b).2 h
  refine List.Perm.eq_of_pairwise' hscan ((c.rowsOf_ordered selection root).filter _) ?_
  refine (List.perm_insertionSort _ _).trans
    (.trans (.of_eq ?_) ((List.perm_insertionSort _ _).filter _).symm)
  rw [List.filter_filter]
  refine List.filter_congr fun r _ => ?_
  cases root <;> simp

end Catalog

namespace Server

/-- The server as a client sees it that learns of a lost connection from its statements alone. -/
def unnoticed (c : Catalog) : Database Server :=
  { database fun _ => c with isClosed := fun _ => false }

/-- A connection whose loss nobody notices answers as the server does. -/
theorem run_unnoticed (c : Catalog) (s : Statement) : (unnoticed c).run s = run (fun _ => c) s :=
  rfl

/-- The server serves the rows of its catalog also behind such a connection. -/
theorem serves_unnoticed (c : Catalog) :
    (unnoticed c).Serves c.rowsOf fun w => w.cursor.map Prod.snd where
  ordered := c.rowsOf_ordered
  declare selection start root w w' h := by
    rw [run_unnoticed] at h
    obtain ⟨v, hanswer, hcursor⟩ := run_eq_ok h
    cases hanswer
    rw [← hcursor, ← c.scanRows_eq]
    rfl
  fetch count left w sent w' hleft h := by
    rw [run_unnoticed] at h
    obtain ⟨v, hanswer, hcursor⟩ := run_eq_ok h
    obtain ⟨⟨snapshot, rows⟩, hw, rfl⟩ := Option.map_eq_some_iff.1 hleft
    have hnext : w.next.cursor = some (snapshot, rows) := hw
    simp only [answer, hnext] at hanswer
    cases hanswer
    exact ⟨changeRow_sentRow _, by rw [← hcursor]; rfl⟩
  read s hs hother w a w' h := by
    rw [run_unnoticed] at h
    obtain ⟨v, hanswer, hcursor⟩ := run_eq_ok h
    rw [← hcursor]
    cases hs with
    | fetch count => exact absurd rfl (hother count)
    | _ => cases hanswer; rfl
  refuse s w e w' h := by
    rw [run_unnoticed] at h
    refine (run_eq_error h).imp ?_ ?_
    · rintro rfl
      rfl
    · rintro ⟨hfetch, hnone⟩
      exact ⟨hfetch, by simp [hnone]⟩
  unreached _ _ _ _ h := by cases h
  surfaces _ _ _ _ _ := rfl
  answers s w w' h := by
    rw [run_unnoticed, run] at h
    split at h
    · rcases hanswer : answer (fun _ => c) s w.next with ⟨_ | a, v⟩ <;>
        simp only [hanswer, Outcome.ofExcept] at h <;> cases h
    · cases h
  connects _ _ _ h := by cases h

/-- A catalog with a film, a person who is linked to it twice, and another one. -/
def castTwice : Catalog where
  films := .ofList [("f", ⟨"Up", none, none, none, "movie", .first⟩)]
  named
    | .person => .ofList [("p", ⟨"Ann", secondOf 1⟩), ("q", ⟨"Bob", secondOf 1⟩)]
    | _ => ∅
  links
    | .person => [⟨"p", "f", "actor"⟩, ⟨"p", "f", "writer"⟩, ⟨"q", "f", "actor"⟩]
    | _ => []

/-- A source over the cast, with three attempts to a call. -/
abbrev castSource : Source (Session Server) := (client (some 3)).source (unnoticed castTwice) 9

/-- A scan of the cast has been opened; the statements to come meet their fates. -/
def castOpened (fates : List Fate) : Session Server :=
  (castSource.ask (.openScan (.related .person) .initial none) ⟨.fresh, start [] fates⟩).2

/-- The first page is fetched, and the connection lost with its answer. -/
def castFirst : Outcome SourceError (List ChangeRow) × Session Server :=
  castSource.ask (.fetch 1) (castOpened [.answered, .answered, .last])

/-- The page after that. -/
def castRest : Outcome SourceError (List ChangeRow) × Session Server :=
  castSource.ask (.fetch 2) castFirst.2

/-- Of two equal rows the first is handed out before the connection is lost, and the other is
dropped when the scan is declared again. The next page, which is topped up behind it, is short, and
every row was handed out. -/
theorem hands_out_cast : castFirst.1 = .ok [⟨"f", secondOf 1, "p"⟩] ∧
    castRest.1 = .ok [⟨"f", secondOf 1, "q"⟩] ∧
    ∀ row ∈ (castTwice.rowsOf (.related .person) none).filter (Timestamp.first ≤ ·.timestamp),
      row ∈ [[⟨"f", secondOf 1, "p"⟩]].flatten ++ [⟨"f", secondOf 1, "q"⟩] := by
  have hfirst : castFirst.1 = .ok [⟨"f", secondOf 1, "p"⟩] := by decide +kernel
  have hrest : castRest.1 = .ok [⟨"f", secondOf 1, "q"⟩] := by decide +kernel
  have hopened : castSource.ask (.openScan (.related .person) .initial none)
      ⟨.fresh, start [] [.answered, .answered, .last]⟩ =
      (.ok (), castOpened [.answered, .answered, .last]) := rfl
  have hpages : castSource.Pages (.related .person) .initial none [[⟨"f", secondOf 1, "p"⟩]]
      castFirst.2 := by
    rcases hask : castFirst with ⟨o, t⟩
    rw [hask] at hfirst
    cases hfirst
    exact (Source.Pages.opened hopened).page hask
  refine ⟨hfirst, hrest, ?_⟩
  obtain ⟨-, -, -, hnext, -⟩ :=
    (client (some 3)).hands_out_scan (serves_unnoticed castTwice) 9 hpages
  rcases hask : castRest with ⟨o, t⟩
  rw [hask] at hrest
  cases hrest
  exact (hnext 2 _ t hask).2.2 (by decide)

end Server

end CatalogSync

import Mathlib.Data.List.Nodup
import RdfMapping.Proofs.Schedules
import RdfMapping.Source.Memory

/-!
# Requests to sources in memory

Sources are opened, asked for records, closed and given up, each as often as anyone likes and
in any order, while documents are set. What happens to one source does not touch another. A
source deals out its records in order, each batch as long as the credit and the records left
allow, until it is released; and the sources that count as active are those that were opened
and not released since.
-/

namespace RdfMapping

namespace MemoryFeed

/-- The records that are still to be delivered. -/
def records (f : MemoryFeed) : List Record := f.remaining.map Json.record

theorem request_of_isOpen {f : MemoryFeed} (isOpen : f.isOpen) (credit : Nat) :
    f.request credit =
      .ok (f.records.take credit, { f with remaining := f.remaining.drop credit }) := by
  rw [request, if_pos isOpen, records, List.map_take]

theorem request_of_closed {f : MemoryFeed} (closed : f.isOpen = false) (credit : Nat) :
    f.request credit = .error (Fault.closedSource f.name) := by
  rw [request, closed]
  rfl

end MemoryFeed

/-- The records that a source delivers. -/
def MemoryDocuments.deliver (d : MemoryDocuments) (source : LogicalSource) : List Record :=
  ((d.sources.lookup source.source).map fun documents =>
    (records documents source.iterator).map Json.record).getD []

theorem MemoryDocuments.openFeed_of_known {d : MemoryDocuments} {source : LogicalSource}
    (known : (d.sources.lookup source.source).isSome) : ∃ feed, d.openFeed source = .ok feed ∧
      feed.isOpen ∧ feed.name = source.source ∧ feed.records = d.deliver source := by
  obtain ⟨documents, found⟩ := Option.isSome_iff_exists.mp known
  refine ⟨⟨source.source, records documents source.iterator, true⟩, ?_, rfl, rfl, ?_⟩
  · rw [openFeed, found]
  · rw [deliver, found]
    rfl

namespace MemoryDesk

inductive Request where
  | offer (name : String) (documents : List Json)
  | openSource (source : LogicalSource)
  | request (handle credit : Nat)
  | close (handle : Nat)
  | drop (handle : Nat)

inductive Reply where
  | done
  | opened (handle : Nat)
  | batch (records : List Record)
  | refused (fault : Fault)
  /-- The handle is not there. -/
  | missing

/-- A request and the reply to it. -/
structure Event where
  request : Request
  reply : Reply

def handle (d : MemoryDesk) : Request → Reply × MemoryDesk
  | .offer name documents => (.done, { d with documents := d.documents.add name documents })
  | .openSource source => match d.openSource source with
    | .ok (handle, next) => (.opened handle, next)
    | .error f => (.refused f, d)
  | .request handle credit => match d.request? handle credit with
    | some (.ok (batch, next)) => (.batch batch, next)
    | some (.error f) => (.refused f, d)
    | none => (.missing, d)
  | .close handle => match d.close? handle with
    | some next => (.done, next)
    | none => (.missing, d)
  | .drop handle => (if (d.feed? handle).isSome then .done else .missing, d.drop handle)

/-- What happened, the last at the end, and the desk behind it. -/
def serve (d : MemoryDesk) (requests : List Request) : List Event × MemoryDesk :=
  requests.foldl (fun past request =>
    (past.1 ++ [⟨request, (past.2.handle request).1⟩], (past.2.handle request).2)) ([], d)

theorem serve_concat (d : MemoryDesk) (requests : List Request) (request : Request) :
    d.serve (requests ++ [request]) =
      ((d.serve requests).1 ++ [⟨request, ((d.serve requests).2.handle request).1⟩],
        ((d.serve requests).2.handle request).2) := by
  simp only [serve, List.foldl_append, List.foldl_cons, List.foldl_nil]

namespace Event

def opened? : Event → Option Nat
  | ⟨_, .opened handle⟩ => some handle
  | _ => none

/-- The source that was closed or given up, for the first time or once more. -/
def released? : Event → Option Nat
  | ⟨.close handle, .done⟩ | ⟨.drop handle, .done⟩ => some handle
  | _ => none

/-- The credit and the batch of an answered request to this handle. -/
def answer? (handle : Nat) : Event → Option (Nat × List Record)
  | ⟨.request h credit, .batch records⟩ => if h = handle then some (credit, records) else none
  | _ => none

end Event

def opened (events : List Event) : List Nat := events.filterMap Event.opened?

def released (events : List Event) : List Nat := events.filterMap Event.released?

def answers (handle : Nat) (events : List Event) : List (Nat × List Record) :=
  events.filterMap (Event.answer? handle)

section

variable (handle : Nat) (events : List Event) (event : Event)

theorem opened_concat : opened (events ++ [event]) = opened events ++ event.opened?.toList := by
  rw [opened, List.filterMap_append, filterMap_singleton]
  rfl

theorem released_concat :
    released (events ++ [event]) = released events ++ event.released?.toList := by
  rw [released, List.filterMap_append, filterMap_singleton]
  rfl

theorem answers_concat : answers handle (events ++ [event]) =
    answers handle events ++ (event.answer? handle).toList := by
  rw [answers, List.filterMap_append, filterMap_singleton]
  rfl

end

/-- What a desk may do with a request. -/
inductive Serves (d : MemoryDesk) : Request → Reply → MemoryDesk → Prop where
  | offered (name : String) (documents : List Json) :
    Serves d (.offer name documents) .done { d with documents := d.documents.add name documents }
  | opened {source : LogicalSource} {documents : List Json}
      (known : d.documents.sources.lookup source.source = some documents) :
    Serves d (.openSource source) (.opened d.feeds.length)
      { d with
        feeds := d.feeds ++
          [some ⟨source.source, MemoryDocuments.records documents source.iterator, true⟩]
        active := d.active + 1 }
  | unknown {source : LogicalSource} (unknown : d.documents.sources.lookup source.source = none) :
    Serves d (.openSource source) (.refused (Fault.unknownSource source.source)) d
  | dealt {h credit : Nat} {feed : MemoryFeed} (found : d.feed? h = some feed)
      (isOpen : feed.isOpen) :
    Serves d (.request h credit) (.batch (feed.records.take credit))
      (d.replace h feed (some { feed with remaining := feed.remaining.drop credit }))
  | late {h credit : Nat} {feed : MemoryFeed} (found : d.feed? h = some feed)
      (closed : feed.isOpen = false) :
    Serves d (.request h credit) (.refused (Fault.closedSource feed.name)) d
  | closed {h : Nat} {feed : MemoryFeed} (found : d.feed? h = some feed) :
    Serves d (.close h) .done (d.replace h feed (some feed.close))
  | dropped {h : Nat} {feed : MemoryFeed} (found : d.feed? h = some feed) :
    Serves d (.drop h) .done (d.replace h feed none)
  | missing {h : Nat} {request : Request} (gone : d.feed? h = none)
      (asks : request = .close h ∨ request = .drop h ∨ ∃ credit, request = .request h credit) :
    Serves d request .missing d

theorem handle_serves (d : MemoryDesk) (request : Request) :
    d.Serves request (d.handle request).1 (d.handle request).2 := by
  cases request with
  | offer name documents => exact .offered name documents
  | openSource source =>
    rw [handle, openSource, MemoryDocuments.openFeed]
    cases known : d.documents.sources.lookup source.source with
    | some documents => exact .opened known
    | none => exact .unknown known
  | request h credit =>
    rw [handle, request?]
    cases found : d.feed? h with
    | none => exact .missing found (.inr (.inr ⟨credit, rfl⟩))
    | some feed =>
      cases isOpen : feed.isOpen with
      | true =>
        rw [Option.map_some, feed.request_of_isOpen isOpen]
        exact .dealt found isOpen
      | false =>
        rw [Option.map_some, feed.request_of_closed isOpen]
        exact .late found isOpen
  | close h =>
    rw [handle, close?]
    cases found : d.feed? h with
    | none => exact .missing found (.inl rfl)
    | some feed => exact .closed found
  | drop h =>
    rw [handle, drop]
    cases found : d.feed? h with
    | none => exact .missing found (.inr (.inl rfl))
    | some feed => exact .dropped found

section

variable {d next : MemoryDesk} {h : Nat} {old : MemoryFeed} {request : Request} {reply : Reply}
  {events : List Event}

theorem lt_of_feed? (found : d.feed? h = some old) : h < d.feeds.length := by
  rw [feed?, Option.join_eq_some_iff] at found
  exact (List.getElem?_eq_some_iff.mp found).1

theorem feed?_replace (found : d.feed? h = some old) (new : Option MemoryFeed) (k : Nat) :
    (d.replace h old new).feed? k = if k = h then new else d.feed? k := by
  have inside := lt_of_feed? found
  rw [feed?, replace]
  by_cases same : k = h
  · subst same
    rw [if_pos rfl, List.getElem?_set_self inside, Option.join_some]
  · rw [if_neg same, List.getElem?_set_ne (Ne.symm same), feed?]

theorem length_replace (new : Option MemoryFeed) :
    (d.replace h old new).feeds.length = d.feeds.length := List.length_set

/-- Of a source that has just been opened the handle is the next number. -/
theorem feed?_concat (new : MemoryFeed) (active k : Nat) :
    feed? { d with feeds := d.feeds ++ [some new], active := active } k =
      if k = d.feeds.length then some new else d.feed? k := by
  rw [feed?, feed?]
  by_cases same : k = d.feeds.length
  · rw [if_pos same, same, List.getElem?_concat_length, Option.join_some]
  · rw [if_neg same]
    by_cases earlier : k < d.feeds.length
    · rw [List.getElem?_append_left earlier]
    · rw [List.getElem?_eq_none (by simp; omega), List.getElem?_eq_none (by omega)]

/-- The sources that were opened and not released. -/
def live (events : List Event) : List Nat := (opened events).filter (· ∉ released events)

/-- A source that delivers. -/
def Delivers (d : MemoryDesk) (h : Nat) : Prop := ∃ feed, d.feed? h = some feed ∧ feed.isOpen

/-- Handles are numbers in order, and the live ones are those that deliver. -/
structure Tells (events : List Event) (d : MemoryDesk) : Prop where
  numbers : opened events = List.range d.feeds.length
  delivers : ∀ h, d.Delivers h ↔ h ∈ live events
  known : ∀ h ∈ released events, h < d.feeds.length
  count : d.active = (live events).length

theorem Tells.nodup (tells : Tells events d) : (live events).Nodup := by
  rw [live, tells.numbers]
  exact List.nodup_range.filter _

/-- A request that opens and releases nothing. -/
theorem Tells.idle (tells : Tells events d) (kept : next.feeds = d.feeds)
    (active : next.active = d.active) {event : Event} (opens : event.opened? = none)
    (releases : event.released? = none) : Tells (events ++ [event]) next := by
  have same : live (events ++ [event]) = live events := by
    simp [live, opened_concat, released_concat, opens, releases]
  have feeds (h : Nat) : next.feed? h = d.feed? h := by rw [feed?, kept, feed?]
  constructor
  · simpa [opened_concat, opens, kept] using tells.numbers
  · intro h
    rw [same, ← tells.delivers h, Delivers, feeds, Delivers]
  · simpa [released_concat, releases, kept] using tells.known
  · rw [active, same, tells.count]

theorem Tells.openSource (tells : Tells events d) (new : MemoryFeed) (isOpen : new.isOpen)
    (source : LogicalSource) :
    Tells (events ++ [⟨.openSource source, .opened d.feeds.length⟩])
      { d with feeds := d.feeds ++ [some new], active := d.active + 1 } := by
  have fresh : d.feeds.length ∉ released events :=
    fun earlier => Nat.lt_irrefl _ (tells.known _ earlier)
  have more : live (events ++ [⟨.openSource source, .opened d.feeds.length⟩]) =
      live events ++ [d.feeds.length] := by
    simp [live, opened_concat, released_concat, Event.opened?, Event.released?,
      List.filter_append, fresh]
  constructor
  · simp [opened_concat, Event.opened?, tells.numbers, List.range_succ]
  · intro h
    rw [more, List.mem_append, List.mem_singleton, ← tells.delivers h, Delivers, feed?_concat]
    by_cases same : h = d.feeds.length
    · simp [same, isOpen]
    · simp [same, Delivers]
  · intro h earlier
    rw [released_concat] at earlier
    have known := tells.known h (by simpa [Event.released?] using earlier)
    rw [List.length_append]
    exact Nat.lt_succ_of_lt known
  · rw [more, List.length_append, ← tells.count]
    rfl

/-- A batch leaves its source open. -/
theorem Tells.deal (tells : Tells events d) (found : d.feed? h = some old) (isOpen : old.isOpen)
    {new : MemoryFeed} (stays : new.isOpen) (credit : Nat) (batch : List Record) :
    Tells (events ++ [⟨.request h credit, .batch batch⟩]) (d.replace h old (some new)) := by
  have same : live (events ++ [⟨.request h credit, .batch batch⟩]) = live events := by
    simp [live, opened_concat, released_concat, Event.opened?, Event.released?]
  constructor
  · simpa [opened_concat, Event.opened?, length_replace] using tells.numbers
  · intro k
    rw [same, ← tells.delivers k, Delivers, feed?_replace found, Delivers]
    by_cases here : k = h
    · simp [here, found, isOpen, stays]
    · simp [here]
  · simpa [released_concat, Event.released?, length_replace] using tells.known
  · rw [same, ← tells.count]
    simp [replace, isOpen, stays]

theorem Tells.release (tells : Tells events d) (found : d.feed? h = some old)
    {new : Option MemoryFeed} (ends : new.any (·.isOpen) = false) {event : Event}
    (opens : event.opened? = none) (releases : event.released? = some h) :
    Tells (events ++ [event]) (d.replace h old new) := by
  have fewer : live (events ++ [event]) = (live events).filter (· != h) := by
    simp only [live, opened_concat, released_concat, opens, releases, Option.toList_none,
      Option.toList_some, List.append_nil, List.filter_filter]
    refine List.filter_congr fun k _ => ?_
    by_cases same : k = h <;> simp [same]
  constructor
  · simpa [opened_concat, opens, length_replace] using tells.numbers
  · intro k
    rw [fewer, List.mem_filter, ← tells.delivers k, Delivers, feed?_replace found, Delivers]
    by_cases here : k = h
    · subst here
      rw [if_pos rfl]
      simpa using fun feed (same : new = some feed) => by simpa [same] using ends
    · simp [here]
  · intro k earlier
    rw [length_replace]
    rw [released_concat, releases] at earlier
    rcases List.mem_append.mp earlier with before | now
    · exact tells.known k before
    · rw [List.mem_singleton.mp now]
      exact lt_of_feed? found
  · have counted : (d.replace h old new).active =
        if old.isOpen then d.active - 1 else d.active := by
      simp [replace, ends]
    rw [counted, fewer, ← tells.nodup.erase_eq_filter, List.length_erase, ← tells.count]
    have delivers : old.isOpen ↔ h ∈ live events := by
      rw [← tells.delivers h, Delivers, found]
      simp
    by_cases isOpen : old.isOpen
    · rw [if_pos isOpen, if_pos (delivers.mp isOpen)]
    · rw [if_neg isOpen, if_neg fun live => isOpen (delivers.mpr live)]

theorem Tells.step (tells : Tells events d) (serves : d.Serves request reply next) :
    Tells (events ++ [⟨request, reply⟩]) next := by
  cases serves with
  | offered name documents =>
    refine tells.idle ?_ ?_ ?_ ?_
    all_goals rfl
  | opened known => exact tells.openSource _ rfl _
  | unknown unknown => exact tells.idle rfl rfl rfl rfl
  | dealt found isOpen =>
    refine tells.deal found isOpen ?_ _ _
    exact isOpen
  | late found closed => exact tells.idle rfl rfl rfl rfl
  | closed found => exact tells.release found rfl rfl rfl
  | dropped found => exact tells.release found rfl rfl rfl
  | missing gone asks =>
    rcases asks with rfl | rfl | ⟨credit, rfl⟩
    · exact tells.idle rfl rfl rfl rfl
    · exact tells.idle rfl rfl rfl rfl
    · exact tells.idle rfl rfl rfl rfl

/-- Whatever is asked of a desk that starts empty, its events tell which sources are open. -/
theorem tells_serve (requests : List Request) :
    Tells (serve .empty requests).1 (serve .empty requests).2 := by
  induction requests using List.reverseRec with
  | nil =>
    refine ⟨rfl, fun h => ⟨?_, fun member => (List.not_mem_nil member).elim⟩,
      fun h member => (List.not_mem_nil member).elim, rfl⟩
    rintro ⟨feed, found, -⟩
    cases found
  | append_singleton requests request ih =>
    rw [serve_concat]
    exact ih.step (handle_serves _ request)

namespace Request

/-- The source that a request is about. -/
def handle? : Request → Option Nat
  | .request h _ | .close h | .drop h => some h
  | _ => none

/-- The credit of a request for records of this source. -/
def credit? (handle : Nat) : Request → Option Nat
  | .request h credit => if h = handle then some credit else none
  | _ => none

end Request

/-- What may come of a source while a request is answered. -/
inductive Treats (h : Nat) (feed : MemoryFeed) : Request → Reply → Option MemoryFeed → Prop where
  | passes {request : Request} {reply : Reply} (other : request.handle? ≠ some h) :
    Treats h feed request reply (some feed)
  | deals (credit : Nat) (isOpen : feed.isOpen) :
    Treats h feed (.request h credit) (.batch (feed.records.take credit))
      (some { feed with remaining := feed.remaining.drop credit })
  | refuses (credit : Nat) (closed : feed.isOpen = false) :
    Treats h feed (.request h credit) (.refused (Fault.closedSource feed.name)) (some feed)
  | closes : Treats h feed (.close h) .done (some feed.close)
  | drops : Treats h feed (.drop h) .done none

theorem Serves.treats (serves : d.Serves request reply next) {feed : MemoryFeed}
    (there : d.feed? h = some feed) : Treats h feed request reply (next.feed? h) := by
  have same {k : Nat} {other : MemoryFeed} (here : k = h) (found : d.feed? k = some other) :
      feed = other := by
    subst here
    rwa [there, Option.some.injEq] at found
  have away {k : Nat} (apart : k ≠ h) {request : Request} (about : request.handle? = some k) :
      request.handle? ≠ some h := by
    rw [about]
    exact fun here => apart (Option.some.inj here)
  cases serves with
  | offered name documents => exact there ▸ .passes (fun none => by cases none)
  | opened known =>
    rw [feed?_concat, if_neg (Nat.ne_of_lt (lt_of_feed? there)), there]
    exact .passes fun none => by cases none
  | unknown unknown => exact there ▸ .passes (fun none => by cases none)
  | @dealt k credit other found isOpen =>
    rw [feed?_replace found]
    by_cases here : k = h
    · obtain rfl := same here found
      rw [if_pos here.symm, here]
      exact .deals credit isOpen
    · rw [if_neg (Ne.symm here), there]
      exact .passes (away here rfl)
  | @late k credit other found closed =>
    rw [there]
    by_cases here : k = h
    · obtain rfl := same here found
      rw [here]
      exact .refuses credit closed
    · exact .passes (away here rfl)
  | @closed k other found =>
    rw [feed?_replace found]
    by_cases here : k = h
    · obtain rfl := same here found
      rw [if_pos here.symm, here]
      exact .closes
    · rw [if_neg (Ne.symm here), there]
      exact .passes (away here rfl)
  | @dropped k other found =>
    rw [feed?_replace found]
    by_cases here : k = h
    · rw [if_pos here.symm, here]
      exact .drops
    · rw [if_neg (Ne.symm here), there]
      exact .passes (away here rfl)
  | @missing k request gone asks =>
    have apart : k ≠ h := by
      rintro rfl
      rw [there] at gone
      cases gone
    rw [there]
    refine .passes (away apart ?_)
    rcases asks with rfl | rfl | ⟨credit, rfl⟩ <;> rfl

/-- A handle that was given up stays so, and nothing is delivered for it. -/
theorem Serves.gone (serves : d.Serves request reply next) (gone : d.feed? h = none)
    (inside : h < d.feeds.length) :
    next.feed? h = none ∧ Event.answer? h ⟨request, reply⟩ = none := by
  have apart {k : Nat} {other : MemoryFeed} (found : d.feed? k = some other) : k ≠ h := by
    rintro rfl
    rw [gone] at found
    cases found
  cases serves with
  | opened known => exact ⟨by rw [feed?_concat, if_neg (Nat.ne_of_lt inside), gone], rfl⟩
  | dealt found isOpen =>
    refine ⟨by rw [feed?_replace found, if_neg (Ne.symm (apart found)), gone], ?_⟩
    rw [Event.answer?, if_neg (apart found)]
  | closed found => exact ⟨by rw [feed?_replace found, if_neg (Ne.symm (apart found)), gone], rfl⟩
  | dropped found => exact ⟨by rw [feed?_replace found, if_neg (Ne.symm (apart found)), gone], rfl⟩
  | offered name documents => exact ⟨gone, rfl⟩
  | unknown unknown => exact ⟨gone, rfl⟩
  | late found closed => exact ⟨gone, rfl⟩
  | missing other asks =>
    refine ⟨gone, ?_⟩
    rcases asks with rfl | rfl | ⟨credit, rfl⟩ <;> rfl

theorem Serves.length_le (serves : d.Serves request reply next) :
    d.feeds.length ≤ next.feeds.length := by
  cases serves with
  | opened known => exact Nat.le_of_lt (by simp)
  | dealt found isOpen => exact Nat.le_of_eq (length_replace _).symm
  | closed found => exact Nat.le_of_eq (length_replace _).symm
  | dropped found => exact Nat.le_of_eq (length_replace _).symm
  | _ => exact Nat.le_refl _

/-- Requests about other sources get no answer for this one. -/
theorem answer?_of_other (other : request.handle? ≠ some h) (reply : Reply) :
    Event.answer? h ⟨request, reply⟩ = none ∧ request.credit? h = none := by
  cases request with
  | request k credit =>
    have apart : k ≠ h := fun same => other (congrArg some same)
    constructor
    · cases reply with
      | batch records => rw [Event.answer?, if_neg apart]
      | _ => rfl
    · rw [Request.credit?, if_neg apart]
  | _ => exact ⟨rfl, rfl⟩

/-- Answers deal out records in order if each batch has as many of them as the credit and the
records left allow. -/
structure DealOut (records : List Record) (answers : List (Nat × List Record)) : Prop where
  order : answers.flatMap Prod.snd <+: records
  sizes : ∀ earlier credit batch, earlier ++ [(credit, batch)] <+: answers →
    batch.length = min credit (records.length - (earlier.flatMap Prod.snd).length)

/-- The next batch is taken from the records that are left. -/
theorem DealOut.concat {records left : List Record} {answers : List (Nat × List Record)}
    (deals : DealOut records answers) (whole : answers.flatMap Prod.snd ++ left = records)
    (credit : Nat) : DealOut records (answers ++ [(credit, left.take credit)]) := by
  constructor
  · refine ⟨left.drop credit, ?_⟩
    rw [List.flatMap_append, List.flatMap_singleton, List.append_assoc, List.take_append_drop,
      whole]
  · intro earlier credit' batch before
    rcases List.prefix_concat_iff.mp before with last | inside
    · obtain ⟨rfl, same⟩ := List.append_inj' last rfl
      cases same
      have total : records.length = (earlier.flatMap Prod.snd).length + left.length := by
        rw [← whole, List.length_append]
      rw [List.length_take, total]
      omega
    · exact deals.sizes earlier credit' batch inside

/-- What was delivered by a source, and what it has left while it is open. -/
structure Delivered (h : Nat) (records : List Record) (events : List Event) (d : MemoryDesk) :
    Prop where
  inside : h < d.feeds.length
  deals : DealOut records (answers h events)
  left : ∀ feed, d.feed? h = some feed → feed.isOpen →
    (answers h events).flatMap Prod.snd ++ feed.records = records

theorem Delivered.step {records : List Record} (delivered : Delivered h records events d)
    (serves : d.Serves request reply next) :
    Delivered h records (events ++ [⟨request, reply⟩]) next := by
  have inside := Nat.lt_of_lt_of_le delivered.inside serves.length_le
  -- without an answer, what is left is what was left before
  have silent (none : Event.answer? h ⟨request, reply⟩ = none)
      (kept : ∀ feed, next.feed? h = some feed → feed.isOpen → d.feed? h = some feed) :
      Delivered h records (events ++ [⟨request, reply⟩]) next := by
    have same : answers h (events ++ [⟨request, reply⟩]) = answers h events := by
      rw [answers_concat, none, Option.toList_none, List.append_nil]
    refine ⟨inside, same ▸ delivered.deals, fun feed found isOpen => ?_⟩
    rw [same]
    exact delivered.left feed (kept feed found isOpen) isOpen
  cases there : d.feed? h with
  | none =>
    obtain ⟨gone, none⟩ := serves.gone there delivered.inside
    refine silent none fun feed found _ => ?_
    rw [gone] at found
    cases found
  | some feed =>
    have treats := serves.treats there
    generalize after : next.feed? h = rest at treats
    cases treats with
    | passes other =>
      exact silent (answer?_of_other other _).1 fun feed found _ => by rw [there, ← after, found]
    | refuses credit closed =>
      exact silent rfl fun feed found _ => by rw [there, ← after, found]
    | closes =>
      refine silent rfl fun other found isOpen => ?_
      rw [after, Option.some.injEq] at found
      rw [← found] at isOpen
      cases isOpen
    | drops =>
      refine silent rfl fun other found _ => ?_
      rw [after] at found
      cases found
    | deals credit isOpen =>
      have left := delivered.left feed there isOpen
      have more : answers h (events ++ [⟨.request h credit, .batch (feed.records.take credit)⟩]) =
          answers h events ++ [(credit, feed.records.take credit)] := by
        rw [answers_concat, Event.answer?, if_pos rfl, Option.toList_some]
      constructor
      · exact inside
      · rw [more]
        exact delivered.deals.concat left credit
      · intro other found _
        have rest : MemoryFeed.records { feed with remaining := feed.remaining.drop credit } =
            feed.records.drop credit := List.map_drop
        rw [after, Option.some.injEq] at found
        rw [more, ← found, rest, List.flatMap_append, List.flatMap_singleton, List.append_assoc,
          List.take_append_drop, left]

/-- A source that was opened deals out its records, whatever else is asked of the desk. -/
theorem delivered_serve {feed : MemoryFeed} (found : d.feed? h = some feed)
    (requests : List Request) :
    Delivered h feed.records (d.serve requests).1 (d.serve requests).2 := by
  induction requests using List.reverseRec with
  | nil =>
    refine ⟨lt_of_feed? found, ⟨List.nil_prefix, fun earlier credit batch before => ?_⟩, ?_⟩
    · have none := List.prefix_nil.mp before
      simp at none
    · intro other there _
      rw [serve, List.foldl_nil, found, Option.some.injEq] at there
      rw [there]
      rfl
  | append_singleton requests request ih =>
    rw [serve_concat]
    exact ih.step (handle_serves _ request)

/-- A source that delivers answers what is not meant to release it. -/
theorem Delivers.step (delivers : d.Delivers h) (serves : d.Serves request reply next)
    (held : request ≠ .close h ∧ request ≠ .drop h) : next.Delivers h ∧
      (Event.answer? h ⟨request, reply⟩).map Prod.fst = request.credit? h := by
  obtain ⟨feed, there, isOpen⟩ := delivers
  have treats := serves.treats there
  rw [Delivers]
  generalize next.feed? h = rest at treats
  cases treats with
  | passes other =>
    obtain ⟨silent, none⟩ := answer?_of_other other reply
    exact ⟨⟨feed, rfl, isOpen⟩, by rw [silent, none, Option.map_none]⟩
  | deals credit _ =>
    refine ⟨⟨_, rfl, isOpen⟩, ?_⟩
    rw [Event.answer?, Request.credit?, if_pos rfl, if_pos rfl, Option.map_some]
  | refuses credit closed =>
    rw [isOpen] at closed
    cases closed
  | closes => exact (held.1 rfl).elim
  | drops => exact (held.2 rfl).elim

/-- Until it is released, a source answers each request with a batch. -/
theorem answered_serve (delivers : d.Delivers h) {requests : List Request}
    (held : ∀ request ∈ requests, request ≠ .close h ∧ request ≠ .drop h) :
    (d.serve requests).2.Delivers h ∧
      (answers h (d.serve requests).1).map Prod.fst = requests.filterMap (Request.credit? h) := by
  induction requests using List.reverseRec with
  | nil => exact ⟨delivers, rfl⟩
  | append_singleton requests request ih =>
    obtain ⟨earlier, last⟩ := List.forall_mem_append.mp held
    obtain ⟨before, told⟩ := ih earlier
    obtain ⟨after, answered⟩ := before.step (handle_serves _ request)
      (last request (List.mem_singleton_self _))
    rw [serve_concat]
    refine ⟨after, ?_⟩
    rw [answers_concat, List.map_append, told, List.filterMap_append, filterMap_singleton,
      ← answered, Option.toList_map]

/-- A source that is not given up keeps its name, and once it is closed it stays closed. -/
theorem Serves.kept (serves : d.Serves request reply next) {feed : MemoryFeed}
    (there : d.feed? h = some feed) (held : request ≠ .drop h) :
    ∃ later, next.feed? h = some later ∧ later.name = feed.name ∧
      (feed.isOpen = false ∨ request = .close h → later.isOpen = false) := by
  have treats := serves.treats there
  generalize next.feed? h = rest at treats
  cases treats with
  | passes other =>
    refine ⟨feed, rfl, rfl, fun closed => closed.resolve_right ?_⟩
    rintro rfl
    exact other rfl
  | deals credit isOpen => exact ⟨_, rfl, rfl, fun closed => closed.resolve_right nofun⟩
  | refuses credit closed => exact ⟨feed, rfl, rfl, fun _ => closed⟩
  | closes => exact ⟨feed.close, rfl, rfl, fun _ => rfl⟩
  | drops => exact (held rfl).elim

theorem feed?_serve {feed : MemoryFeed} (found : d.feed? h = some feed) {requests : List Request}
    (kept : .drop h ∉ requests) : ∃ later, (d.serve requests).2.feed? h = some later ∧
      later.name = feed.name ∧ (.close h ∈ requests → later.isOpen = false) := by
  induction requests using List.reverseRec with
  | nil => exact ⟨feed, found, rfl, fun none => (List.not_mem_nil none).elim⟩
  | append_singleton requests request ih =>
    rw [List.mem_append, List.mem_singleton, not_or] at kept
    obtain ⟨before, there, named, ended⟩ := ih kept.1
    obtain ⟨later, after, same, closed⟩ :=
      (handle_serves _ request).kept there (Ne.symm kept.2)
    rw [serve_concat]
    refine ⟨later, after, same.trans named, fun closes => closed ?_⟩
    rw [List.mem_append, List.mem_singleton] at closes
    exact closes.imp ended Eq.symm

/-- A source that was closed refuses every request. -/
theorem refused_serve {feed : MemoryFeed} (found : d.feed? h = some feed) {requests : List Request}
    (kept : .drop h ∉ requests) (closed : .close h ∈ requests) (credit : Nat) :
    ((d.serve requests).2.handle (.request h credit)).1 =
      .refused (Fault.closedSource feed.name) := by
  obtain ⟨later, there, named, ended⟩ := feed?_serve found kept
  rw [handle, request?, there, Option.map_some, later.request_of_closed (ended closed), named]
  rfl

/-- What an opened source does, whatever is asked of it and of the other sources. -/
structure Supplies (d : MemoryDesk) (h : Nat) (name : String) (records : List Record) : Prop where
  deals : ∀ requests, DealOut records (answers h (d.serve requests).1)
  answered : ∀ requests : List Request,
    (∀ request ∈ requests, request ≠ .close h ∧ request ≠ .drop h) →
      (answers h (d.serve requests).1).map Prod.fst = requests.filterMap (Request.credit? h)
  refused : ∀ requests : List Request, .close h ∈ requests → .drop h ∉ requests → ∀ credit,
    ((d.serve requests).2.handle (.request h credit)).1 = .refused (Fault.closedSource name)

/-- A source whose documents are there is opened, and supplies its records. -/
theorem openSource_supplies {source : LogicalSource}
    (known : (d.documents.sources.lookup source.source).isSome) :
    ∃ next, d.openSource source = .ok (d.feeds.length, next) ∧
      next.Supplies d.feeds.length source.source (d.documents.deliver source) := by
  obtain ⟨feed, opens, isOpen, named, delivered⟩ := MemoryDocuments.openFeed_of_known known
  refine ⟨{ d with feeds := d.feeds ++ [some feed], active := d.active + 1 }, ?_, ?_⟩
  · rw [openSource, opens]
    rfl
  · have found : feed? { d with feeds := d.feeds ++ [some feed], active := d.active + 1 }
        d.feeds.length = some feed := by
      rw [feed?_concat, if_pos rfl]
    rw [← named, ← delivered]
    constructor
    · exact fun requests => (delivered_serve found requests).deals
    · exact fun requests held => (answered_serve ⟨feed, found, isOpen⟩ held).2
    · exact fun requests closed kept credit => refused_serve found kept closed credit

end

end MemoryDesk

end RdfMapping

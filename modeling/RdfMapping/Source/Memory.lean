import RdfMapping.Json.DotPath
import RdfMapping.Json.Reader
import RdfMapping.Source.Resolver

/-!
# Sources in memory

JSON documents kept under source names. Opening a source selects its records;
requests hand them out in order, never more than asked for, until it is closed.
The number of open sources is counted.
-/

namespace RdfMapping

/-- An opened source with the records that are still to be delivered. -/
structure MemoryFeed where
  name : String
  remaining : List Json
  isOpen : Bool

namespace MemoryFeed

def request (f : MemoryFeed) (credit : Nat) : Except Fault (List Record × MemoryFeed) :=
  if f.isOpen then
    .ok ((f.remaining.take credit).map Json.record,
      { f with remaining := f.remaining.drop credit })
  else .error (Fault.closedSource f.name)

def close (f : MemoryFeed) : MemoryFeed := { f with remaining := [], isOpen := false }

end MemoryFeed

/-- The documents of each source. -/
structure MemoryDocuments where
  sources : List (String × List Json)

namespace MemoryDocuments

def empty : MemoryDocuments := ⟨[]⟩

def put (name : String) (documents : List Json) :
    List (String × List Json) → List (String × List Json)
  | [] => [(name, documents)]
  | (n, ds) :: rest =>
    if n = name then (name, documents) :: rest else (n, ds) :: put name documents rest

/-- Sets the documents of a source. -/
def add (d : MemoryDocuments) (name : String) (documents : List Json) : MemoryDocuments :=
  ⟨put name documents d.sources⟩

/-- The items of an array are documents, any other value is one document. -/
def documentsOf : Json → List Json
  | .array items => items
  | value => [value]

/-- Sets the documents of a source from JSON text. -/
def addText (d : MemoryDocuments) (name text : String) : Except Fault MemoryDocuments :=
  match Json.read? text with
  | some value => .ok (d.add name (documentsOf value.canonical))
  | none => .error (.unreadable .records)

/-- The records of a source: its documents, or what the iterator selects with arrays unfolded. -/
def records (documents : List Json) : Option String → List Json
  | none => documents
  | some iterator => documents.flatMap fun d => (Json.select d iterator).flatMap documentsOf

def openFeed (d : MemoryDocuments) (source : LogicalSource) : Except Fault MemoryFeed :=
  match d.sources.lookup source.source with
  | some documents => .ok ⟨source.source, records documents source.iterator, true⟩
  | none => .error (Fault.unknownSource source.source)

/-- Serves the records of the documents. Closing a feed always succeeds. -/
def resolver (d : MemoryDocuments) : SourceResolver MemoryFeed where
  openSource := d.openFeed
  request := MemoryFeed.request
  close _ := .ok ()

end MemoryDocuments

/-- Opened sources by handle, and how many of them are open. A dropped handle is `none`. -/
structure MemoryDesk where
  documents : MemoryDocuments
  feeds : List (Option MemoryFeed)
  active : Nat

namespace MemoryDesk

def empty : MemoryDesk := ⟨.empty, [], 0⟩

def feed? (d : MemoryDesk) (handle : Nat) : Option MemoryFeed := (d.feeds[handle]?).join

def openSource (d : MemoryDesk) (source : LogicalSource) : Except Fault (Nat × MemoryDesk) :=
  (d.documents.openFeed source).map fun feed =>
    (d.feeds.length, { d with feeds := d.feeds ++ [some feed], active := d.active + 1 })

/-- Puts a feed in the place of another, which is released if it was open and the new one is not. -/
def replace (d : MemoryDesk) (handle : Nat) (old : MemoryFeed) (new : Option MemoryFeed) :
    MemoryDesk :=
  let stillOpen := new.any (·.isOpen)
  { d with
    feeds := d.feeds.set handle new
    active := if old.isOpen && !stillOpen then d.active - 1 else d.active }

/-- A batch of an opened source; a handle that is not there gives none. -/
def request? (d : MemoryDesk) (handle credit : Nat) :
    Option (Except Fault (List Record × MemoryDesk)) :=
  (d.feed? handle).map fun feed => (feed.request credit).map fun (batch, next) =>
    (batch, d.replace handle feed (some next))

def close? (d : MemoryDesk) (handle : Nat) : Option MemoryDesk :=
  (d.feed? handle).map fun feed => d.replace handle feed (some feed.close)

/-- Gives a handle up; one that is not there stays so. -/
def drop (d : MemoryDesk) (handle : Nat) : MemoryDesk :=
  match d.feed? handle with
  | some feed => d.replace handle feed none
  | none => d

end MemoryDesk

end RdfMapping

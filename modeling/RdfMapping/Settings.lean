import RdfMapping.Fault
import RdfMapping.Iri
import RdfMapping.Json.Reader
import RdfMapping.Json.Shape
import RdfMapping.Toml.Reader

/-!
# Settings of a run

Every setting has a default, so a document names only those it changes. Settings
are read first and checked afterwards; the first bad one is reported.
-/

namespace RdfMapping

structure Settings where
  /-- Put before texts that are no IRIs by themselves. -/
  base : Option String := none
  /-- Records that are asked for at a time. -/
  batchSize : Nat := 256
  /-- Quads that may wait for the reader of the run. -/
  channelCapacity : Nat := 1024
  /-- Sources that are open at a time. -/
  maxSources : Nat := 8
  /-- Classes of subjects are stated. -/
  emitClasses : Bool := true
  deriving DecidableEq, Repr

namespace Settings

def check (s : Settings) : Except Fault Unit := do
  if s.batchSize = 0 then throw (.config "batch_size must be at least 1")
  if s.channelCapacity = 0 then throw (.config "channel_capacity must be at least 1")
  if s.maxSources = 0 then throw (.config "max_concurrent_sources must be at least 1")
  if let some base := s.base then
    unless Iri.isAbsolute base do throw (.config ("base_iri must be an absolute IRI: " ++ base))

def checked (s : Settings) : Except Fault Settings := do
  s.check
  return s

def fieldNames : List String :=
  ["base_iri", "batch_size", "channel_capacity", "max_concurrent_sources", "emit_class_triples"]

open Json Json.Outline in
def ofOutline? (outline : Outline) : Option Settings := do
  let defaults : Settings := {}
  match ← fields? fieldNames outline with
  | [base, batchSize, channelCapacity, maxSources, emitClasses] =>
    return {
      base := ← optional? text? base
      batchSize := ← withDefault? defaults.batchSize machineWord? batchSize
      channelCapacity := ← withDefault? defaults.channelCapacity machineWord? channelCapacity
      maxSources := ← withDefault? defaults.maxSources machineWord? maxSources
      emitClasses := ← withDefault? defaults.emitClasses bool? emitClasses }
  | _ => none

/-- A member of a TOML table, where it is there, in JSON terms; the rest has no such terms. -/
def memberOfToml? (members : List (String × Toml.Value)) (name : String) :
    Option (Option Json.Outline) :=
  match members.lookup name with
  | none => some none
  | some (.text s) => some (some (.text s))
  | some (.integer n) => some (some (.whole n))
  | some (.bool b) => some (some (.bool b))
  | some _ => none

def ofToml? (members : List (String × Toml.Value)) : Option Settings := do
  let fields ← fieldNames.mapM fun name =>
    (memberOfToml? members name).map fun value => value.map (name, ·)
  ofOutline? (.object (fields.filterMap id))

inductive Format where
  | json
  | toml
  deriving DecidableEq, Repr

def parse? : Format → String → Option Settings
  | .json, text => (Json.outline? text).bind ofOutline?
  | .toml, text => (Toml.read? text).bind ofToml?

/-- Reads and checks settings. -/
def read (format : Format) (text : String) : Except Fault Settings :=
  match parse? format text with
  | some s => s.checked
  | none => .error (.unreadable .settings)

/-- The part of a file name behind its last dot; a dot in front does not count. -/
def extension? (file : String) : Option String :=
  let name := (file.toList.reverse.takeWhile (· ≠ '/')).reverse
  let extension := (name.reverse.takeWhile (· ≠ '.')).reverse
  if extension.length + 1 < name.length then some (String.ofList extension) else none

def Format.ofFile? (file : String) : Option Format :=
  match extension? file with
  | some "json" => some .json
  | some "toml" => some .toml
  | _ => none

/-- Reads settings from a file, whose name tells the format; `none` for a file that is not there. -/
def load (file : String) (text : Option String) : Except Fault Settings :=
  match text, Format.ofFile? file with
  | some text, some format => read format text
  | _, _ => .error (.unreadable .settings)

end Settings

end RdfMapping

import Knust.Config.EtsCsv
import Knust.Foundation.Overwriting

namespace Knust.Config

open Foundation Foundation.Text Protocol Protocol.Dpt

inductive Column
  | name
  | address
  | central
  | unfiltered
  | description
  | dpt
  | security
  deriving DecidableEq

def Column.title : Column → String
  | .name => "Group name"
  | .address => "Address"
  | .central => "Central"
  | .unfiltered => "Unfiltered"
  | .description => "Description"
  | .dpt => "DatapointType"
  | .security => "Security"

structure Layout where
  columns : List Column
  name_mem : .name ∈ columns
  address_mem : .address ∈ columns
  dpt_mem : .dpt ∈ columns
  description_mem : .description ∈ columns

/-- A group address as it is exported. Its texts contain no line breaks or quotation marks. -/
structure Row where
  address : GroupAddress
  dpt : DptType
  name : Text
  description : Text
  name_plain : '\n' ∉ name ∧ '"' ∉ name
  description_plain : '\n' ∉ description ∧ '"' ∉ description

namespace Row

def addressText (a : GroupAddress) : Text :=
  ['/'].intercalate [digits a.main.toNat, digits a.middle.toNat, digits a.sub.toNat]

def dptText (d : DptType) : Text := lit "DPST-" ++ ['-'].intercalate [digits d.main, digits d.sub]

def field (row : Row) : Column → Text
  | .name => row.name
  | .address => addressText row.address
  | .dpt => dptText row.dpt
  | .description => row.description
  | .central | .unfiltered | .security => []

def config (row : Row) : GroupAddressConfig where
  dpt := row.dpt
  name := row.name.trim
  description := (some row.description.trim).filter (· ≠ [])

def entry (row : Row) : GroupAddress × GroupAddressConfig := (row.address, row.config)

end Row

def quoted (t : Text) : Text := '"' :: (t ++ ['"'])

namespace Layout

variable (layout : Layout)

def header : Text := [';'].intercalate (layout.columns.map fun c ↦ quoted (lit c.title))

def line (row : Row) : Text := [';'].intercalate (layout.columns.map fun c ↦ quoted (row.field c))

def write (crlf : Bool) (rows : List Row) : Text :=
  (layout.header :: rows.map layout.line).flatMap
    (· ++ ((if crlf then ['\r'] else []) ++ ['\n']))

def positions : Columns where
  name := some (layout.columns.idxOf .name)
  addr := layout.columns.idxOf .address
  dpt := some (layout.columns.idxOf .dpt)
  desc := some (layout.columns.idxOf .description)

def read (row : Row) : Option (GroupAddress × GroupAddressConfig) :=
  parseRow layout.positions ((layout.line row).splitOn ';')

end Layout

section

variable {t : Text} {layout : Layout} {row : Row}

end

end Knust.Config

import CommentBlocks.Disk.Resolve

namespace CommentBlocks.Disk

inductive Item
  | file (data : Bytes)
  | directory
  | link (target : String)

def Item.node : Item → Node
  | file data => .file data
  | directory => .directory []
  | link target => .link target

theorem Item.wellNamed_node (i : Item) : i.node.WellNamed := by
  cases i with
  | file data => exact Node.wellNamed_file data
  | directory => exact Node.wellNamed_directory_iff.mpr (by simp)
  | link target => exact Node.wellNamed_link target

def fresh : Disk where
  root := .directory [("tmp", .directory [("collection", .directory [])])]
  working := ["tmp", "collection"]
  named := by
    have htmp : Path.IsName "tmp" := by decide
    have hcollection : Path.IsName "collection" := by decide
    simp [Node.wellNamed_directory_iff, htmp, hcollection]

def put (d : Disk) (new : Item) (loc : Location) : Disk :=
  if h : ∀ name ∈ loc, Path.IsName name then
    { d with root := Node.put new.node d.root loc, named := d.named.put new.wellNamed_node h }
  else d

def enter (d : Disk) (place : Location) (name : String) : Except Errno (Disk × Location) :=
  match d.root.get? (place ++ [name]) with
  | none => .ok (d.put .directory (place ++ [name]), place ++ [name])
  | some _ => (d.follow linkLimit place [.name name]).map fun target => (d, target)

def enterAll (d : Disk) (place : Location) : List Component → Except Errno (Disk × Location)
  | [] => .ok (d, place)
  | .root :: rest => d.enterAll [] rest
  | .here :: rest => d.enterAll place rest
  | .up :: rest => d.enterAll place.dropLast rest
  | .name s :: rest =>
    match d.enter place s with
    | .error e => .error e
    | .ok (d, place) => d.enterAll place rest

/-- Puts an item under a name. A directory that is there already is kept, and a file is written to
where a link of its name leads. -/
def putAt (d : Disk) (place : Location) (name : String) (new : Item) : Disk :=
  let plain := place ++ [name]
  match new, d.root.get? plain with
  | .directory, some (.directory _) => d
  | .file _, some (.link _) =>
    d.put new ((d.follow linkLimit place [.name name]).toOption.getD plain)
  | _, _ => d.put new plain

/-- Puts an item at a path. Where there is no way to it, nothing is put. -/
def add (d : Disk) (path : String) (new : Item) : Disk :=
  match (Path.components path).reverse with
  | .name s :: way =>
    match d.enterAll (origin d.working path) way.reverse with
    | .ok (d, place) => d.putAt place s new
    | .error _ => d
  | _ => d

def ofTree (items : List (String × Item)) : Disk :=
  items.foldl (fun d (path, i) => d.add path i) fresh

end CommentBlocks.Disk

import CommentBlocks.Language.Rule

namespace CommentBlocks

structure Languages where
  all : List Language

namespace Languages

def empty : Languages := ⟨[]⟩

def put (new : Language) : List Language → List Language
  | [] => [new]
  | l :: rest => if sameLetters l.id new.id then new :: rest else l :: put new rest

def add (ls : Languages) (new : Language) : Languages := ⟨put new ls.all⟩

def find? (ls : Languages) (id : String) : Option Language := ls.all.find? (sameLetters ·.id id)

def ids (ls : Languages) : List String := ls.all.map (·.id)

def ofList (new : List Language) : Languages := new.foldl add empty

end Languages

end CommentBlocks

/-! Texts in pieces. -/

namespace RowFence.Text

def splitAt (mark : Char) : List Char → List (List Char)
  | [] => [[]]
  | c :: cs =>
    match splitAt mark cs with
    | [] => [[c]]
    | piece :: pieces => if c = mark then [] :: piece :: pieces else (c :: piece) :: pieces

def pieces (mark : Char) (s : String) : List String := (splitAt mark s.toList).map String.ofList

end RowFence.Text

/-!
The parts of a text between the places of one character. There is one part more than there are
places, and parts may be empty.
-/
namespace TagListing.Text

def partsOf (mark : Char) : List Char → List (List Char)
  | [] => [[]]
  | c :: rest =>
    if c = mark then [] :: partsOf mark rest
    else match partsOf mark rest with
      | part :: more => (c :: part) :: more
      | [] => [[c]]

def cutAt? (mark : Char) : List Char → Option (List Char × List Char)
  | [] => none
  | c :: rest =>
    if c = mark then some ([], rest) else (cutAt? mark rest).map fun p => (c :: p.1, p.2)

end TagListing.Text

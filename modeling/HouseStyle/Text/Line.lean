/-! The lines of a text. -/
namespace HouseStyle.Text

/-- A line ends at a line feed, which is dropped together with one carriage return right before it.
What follows the last line feed is a line unless it is empty, and keeps its carriage returns. -/
def lines : List Char → List (List Char)
  | [] => []
  | c :: rest =>
    if c = '\n' then [] :: lines rest
    else if c = '\r' ∧ rest.head? = some '\n' then lines rest
    else match lines rest with
      | [] => [[c]]
      | line :: others => (c :: line) :: others

end HouseStyle.Text

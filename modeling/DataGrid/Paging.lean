import DataGrid.Decimal.Integer
import DataGrid.Error

/-!
# Pages

A page is a number of rows in the order of the table.  Pages are counted from
zero.  The position of a page's first row is kept within sixty-four bits, and
one beyond them is taken as the greatest position there is.
-/

namespace DataGrid

/-- A page of a table. -/
structure Page where
  index : Int
  size : Int
deriving DecidableEq, Repr

namespace Page

/-- A page; its index may not be negative, and its size has to be positive. -/
def of (index size : Int) : Except Error Page :=
  if index < 0 then .error (.protocol (.negativePage index))
  else if size ≤ 0 then .error (.protocol (.pageSizeTooSmall size))
  else .ok { index, size }

def offset (page : Page) : Int :=
  Decimal.saturate (page.index * page.size)

def limit (page : Page) : Int :=
  page.size

end Page

end DataGrid

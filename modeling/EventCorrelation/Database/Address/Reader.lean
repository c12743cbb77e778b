import EventCorrelation.Database.Address.Server

/-!
# Reading addresses

An address is its scheme, its server, its path and its query, in this order. The first fault in that
order is told.
-/

namespace EventCorrelation.Database.Address

/-- Reads an address. Without a server or a slash at its beginning, the path stays as it is
spelled, except in addresses of files. -/
def read (text : String) : Except AddressFault Address := do
  let (kind, rest) ← readScheme (clean text.toList)
  let (server, behind) ← readServer kind rest
  let isOpaque := kind == .other && rest.head? != some '/'
  return { server with
    path := if isOpaque then behind.takeWhile (!endsPath ·) else readPath kind behind
    query := readQuery behind }

end EventCorrelation.Database.Address

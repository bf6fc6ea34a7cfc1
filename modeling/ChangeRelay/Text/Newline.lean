/-!
Line ends of files. A carriage return, with or without a line feed behind it, reads as a line feed.
-/
namespace ChangeRelay.Text

def withLineFeeds : List Char → List Char
  | [] => []
  | '\r' :: '\n' :: rest => '\n' :: withLineFeeds rest
  | c :: rest => (if c = '\r' then '\n' else c) :: withLineFeeds rest

end ChangeRelay.Text

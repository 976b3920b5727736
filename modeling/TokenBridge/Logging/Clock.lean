/-!
# The time of log lines

Log lines are dated at the beginning of the epoch, in universal time. A date format is a text in
which a percent sign and a letter stand for a part of the date.
-/

namespace TokenBridge.Logging

/-- The parts of the beginning of the epoch: Thursday, the first of January 1970, midnight. -/
def epochParts : List (Char × String) :=
  [('a', "Thu"), ('A', "Thursday"), ('b', "Jan"), ('B', "January"), ('h', "Jan"),
    ('c', "Thu Jan  1 00:00:00 1970"), ('C', "19"), ('d', "01"), ('D', "01/01/70"), ('e', " 1"),
    ('F', "1970-01-01"), ('g', "70"), ('G', "1970"), ('H', "00"), ('I', "12"), ('j', "001"),
    ('k', " 0"), ('l', "12"), ('m', "01"), ('M', "00"), ('n', "\n"), ('p', "AM"), ('P', "am"),
    ('r', "12:00:00 AM"), ('R', "00:00"), ('s', "0"), ('S', "00"), ('t', "\t"), ('T', "00:00:00"),
    ('u', "4"), ('U', "00"), ('V', "01"), ('w', "4"), ('W', "00"), ('x', "01/01/70"),
    ('X', "00:00:00"), ('y', "70"), ('Y', "1970"), ('z', "+0000"), ('Z', "GMT"), ('%', "%")]

/-- The beginning of the epoch under a date format; a letter that stands for nothing stays as it
is. -/
def epochFrom : List Char → List Char
  | '%' :: c :: rest =>
    match epochParts.lookup c with
    | some part => part.toList ++ epochFrom rest
    | none => '%' :: c :: epochFrom rest
  | c :: rest => c :: epochFrom rest
  | [] => []

/-- The beginning of the epoch under a date format. Without a format it has milliseconds. -/
def epochText (format : String) : String :=
  if format.isEmpty then "1970-01-01 00:00:00,000" else String.ofList (epochFrom format.toList)

end TokenBridge.Logging

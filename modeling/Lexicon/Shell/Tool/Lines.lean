import Lexicon.Shell.Tool.Basic

namespace Lexicon.Shell.Tool

open Run

def relined (lines : List String) (closed : Bool) : String :=
  if closed then unlines lines else String.intercalate "\n" lines

def eachLine (name : String) (paths : List String) (f : String → String)
    (failure : String → String → String := (· ++ ·)) : Run Nat :=
  filter name paths (fun text =>
    let (lines, closed) := linesOf text
    relined (lines.map f) closed) failure

def concatenating : Action := fun args =>
  let usage : Usage := { plain := "nbEsTAvetu", long := [("number", 'n'), ("show-ends", 'E')] }
  usage.handle "cat" args fun a => do
    let numbered := a.has 'n' || a.has 'b'
    let ends := a.has 'E' || a.has 'A' || a.has 'e'
    let tabs := a.has 'T' || a.has 'A' || a.has 't'
    let (found, good) ← contents "cat" a.operands
    let text := String.join (found.map (·.2))
    if !numbered && !ends && !tabs && !a.has 's' then write 1 text
    else
      let (lines, closed) := linesOf text
      let squeezed := if a.has 's' then
          (lines.foldl (fun (kept : List String) l => if l.isEmpty && kept.head? == some "" then kept else l :: kept) []).reverse
        else lines
      let (shown, _) := squeezed.foldl (fun (shown, n) l =>
        let counts := numbered && !(a.has 'b' && l.isEmpty)
        let l' := (if tabs then replaceAll "\t" "^I" l else l) ++ (if ends then "$" else "")
        ((if counts then rightAligned 6 (toString n) ++ "\t" ++ l' else l') :: shown, if counts then n + 1 else n))
        (([] : List String), 1)
      write 1 (relined shown.reverse closed)
    return if good then 0 else 1

def reversing : Action := fun args =>
  let failure (path reason : String) : String := "failed to open '" ++ path ++ "' for reading" ++ reason
  filter "tac" args (fun text => unlines (linesOf text).1.reverse) failure

def mirroring : Action := fun args =>
  eachLine "rev" args (fun l => String.ofList l.toList.reverse) fun path reason => "cannot open " ++ path ++ reason

def signedCount? (s : String) : Option (Option Char × Nat) :=
  match s.toList with
  | c :: rest =>
    if c == '+' || c == '-' then (String.ofList rest).toNat?.map (some c, ·) else s.toNat?.map (none, ·)
  | [] => none

def choosing (name : String) (part : Option Char → Nat → List String → List String) : Action := fun args =>
  let usage : Usage := {
    valued := "nc", plain := "qvf", counted := some 'n'
    long := [("lines", 'n'), ("bytes", 'c'), ("quiet", 'q'), ("verbose", 'v')] }
  usage.handle name args fun a => do
    let byCharacters := a.has 'c'
    let given := (a.value? (if byCharacters then 'c' else 'n')).getD "10"
    match signedCount? given with
    | none =>
      warn name ("invalid number of " ++ (if byCharacters then "bytes" else "lines") ++ ": '" ++ given ++ "'")
      return 1
    | some (sign, n) =>
      if name == "tail" && n = 0 && sign != some '+' then return 0
      let mut status := 0
      let mut first := true
      let headed := (1 < a.operands.length && !a.has 'q') || a.has 'v'
      for path in (if a.operands.isEmpty then ["-"] else a.operands) do
        let header : Run Unit := do
          if headed then
            let label := if path == "-" then "standard input" else path
            write 1 ((if first then "" else "\n") ++ "==> " ++ label ++ " <==\n")
        match ← (if path == "-" && name == "head" && sign.isNone && !byCharacters then
            return .ok (unlinesRead (← readLines n)) else content path) with
        | .ok text =>
          header
          first := false
          if byCharacters then
            write 1 (String.join (part sign n (text.toList.map String.singleton)))
          else
            let (lines, closed) := linesOf text
            let marked := lines.map (· ++ "\n")
            let marked := if closed then marked else marked.dropLast ++ (lines.getLast?).toList
            write 1 (String.join (part sign n marked))
        | .error text =>
          let reason := String.ofList (text.toList.drop path.length)
          let isDirectory := reason == ": Is a directory"
          if isDirectory then
            header
            first := false
          warn name (if isDirectory then "error reading '" ++ path ++ "'" ++ reason
            else "cannot open '" ++ path ++ "' for reading" ++ reason)
          status := 1
      return status
where
  readLines : Nat → Run (List String)
    | 0 => return []
    | n + 1 => do
      let line := Raw.ofBytes (← readLine 0)
      if line.isEmpty then return [] else return line :: (← readLines n)
  unlinesRead (lines : List String) : String := String.join lines

def beginning : Action := choosing "head" fun sign n all =>
  if sign == some '-' then all.take (all.length - n) else all.take n

def finishing : Action := choosing "tail" fun sign n all =>
  if sign == some '+' then all.drop (n - 1) else all.drop (all.length - n)

def counting : Action := fun args =>
  let usage : Usage := {
    plain := "lwcmL"
    long := [("lines", 'l'), ("words", 'w'), ("bytes", 'c'), ("chars", 'm'), ("max-line-length", 'L')] }
  usage.handle "wc" args fun a => do
    let chosen := ['l', 'w', 'm', 'c', 'L'].filter a.has
    let chosen := if chosen.isEmpty then ['l', 'w', 'c'] else chosen
    let fromFile := match ← stream? 0 with
      | some (.file ..) => true
      | _ => false
    let mut found : List (String × String) := []
    let mut good := true
    let mut irregular := false
    for path in (if a.operands.isEmpty then ["-"] else a.operands) do
      match ← content path with
      | .ok text => found := found ++ [(path, text)]
      | .error text =>
        warn "wc" text
        good := false
        if text.endsWith ": Is a directory" then
          found := found ++ [(path, "")]
          irregular := true
    let measure (text : String) (c : Char) : Nat :=
      match c with
      | 'l' => text.toList.count '\n'
      | 'w' => (wordsOf text).length
      | 'L' => (linesOf text).1.foldl (fun n l => max n l.length) 0
      | _ => text.length
    let rows := found.map fun (path, text) => (if a.operands.isEmpty then "" else path, chosen.map (measure text))
    let total := rows.foldl (fun sums row =>
      ((sums.zip row.2).zip chosen).map fun ((x, y), c) => if c == 'L' then max x y else x + y) (chosen.map fun _ => 0)
    let rows := if 1 < a.operands.length then rows ++ [("total", total)] else rows
    let size := found.foldl (fun n f => n + f.2.length) 0
    let piped := irregular || (found.any (fun f => f.1 == "-") && !fromFile)
    let width := if chosen.length = 1 && a.operands.length ≤ 1 then 1
      else if piped then 7 else (toString size).length
    write 1 (unlines (rows.map fun (path, counts) =>
      String.intercalate " " (counts.map fun n => rightAligned width (toString n)) ++ (if path.isEmpty then "" else " " ++ path)))
    return if good then 0 else 1

def numbering : Action := fun args =>
  let usage : Usage := { valued := "bwsv" }
  usage.handle "nl" args fun a => do
    let all := a.value? 'b' == some "a"
    let width := ((a.value? 'w').bind String.toNat?).getD 6
    let mark := (a.value? 's').getD "\t"
    let start := ((a.value? 'v').bind String.toNat?).getD 1
    filter "nl" a.operands fun text =>
      let (shown, _) := (linesOf text).1.foldl (fun (shown, n) l =>
        if all || !l.isEmpty then ((rightAligned width (toString n) ++ mark ++ l) :: shown, n + 1)
        else (String.ofList (List.replicate (width + mark.length) ' ') :: shown, n)) (([] : List String), start)
      unlines shown.reverse

def dropping : Action := fun args =>
  let usage : Usage := { plain := "cdui", valued := "fsw", long := [("count", 'c'), ("repeated", 'd'), ("unique", 'u')] }
  usage.handle "uniq" args fun a =>
    let key (l : String) : String :=
      let l := match (a.value? 'f').bind String.toNat? with
        | some n => String.intercalate " " ((wordsOf l).drop n)
        | none => l
      let l := match (a.value? 's').bind String.toNat? with
        | some n => String.ofList (l.toList.drop n)
        | none => l
      if a.has 'i' then l.map Char.toLower else l
    filter "uniq" (a.operands.take 1) fun text =>
      let groups := (linesOf text).1.foldl (fun (groups : List (String × Nat)) l =>
        match groups with
        | (first, n) :: rest => if key first == key l then (first, n + 1) :: rest else (l, 1) :: groups
        | [] => [(l, 1)]) []
      let chosen := groups.reverse.filter fun g => (!a.has 'd' || 1 < g.2) && (!a.has 'u' || g.2 = 1)
      unlines (chosen.map fun (l, n) => if a.has 'c' then rightAligned 7 (toString n) ++ " " ++ l else l)

def positions? (s : String) : Option (List (Nat × Option Nat)) :=
  (Text.splitAt ',' s.toList).mapM fun cs =>
    match splitFirst '-' (String.ofList cs) with
    | (n, none) => n.toNat?.map fun n => (n, some n)
    | (low, some high) =>
      match low.toNat?, high.toNat? with
      | some l, some h => if l ≤ h then some (l, some h) else none
      | some l, none => if high.isEmpty then some (l, none) else none
      | none, some h => if low.isEmpty then some (1, some h) else none
      | none, none => none

def cutting : Action := fun args =>
  let usage : Usage := {
    plain := "sn", valued := "bcdfo"
    long := [("delimiter", 'd'), ("fields", 'f'), ("characters", 'c'), ("bytes", 'b'), ("only-delimited", 's'),
      ("output-delimiter", 'o')] }
  usage.handle "cut" args fun a => do
    let byField := a.has 'f'
    match a.value? 'f' <|> a.value? 'c' <|> a.value? 'b' with
    | none => misused "cut" "you must specify a list of bytes, characters, or fields"
    | some given =>
      match positions? given with
      | none => misused "cut" ((if byField then "invalid field value " else "invalid byte/character position ")
          ++ "'" ++ given ++ "'")
      | some ((0, _) :: _) =>
        misused "cut" ((if byField then "fields" else "byte/character positions") ++ " are numbered from 1")
      | some ranges =>
        let chosen {α : Type} (all : List α) : List α :=
          (all.zipIdx.filter fun (_, i) => ranges.any fun (l, h) => l ≤ i + 1 && h.all (i + 1 ≤ ·)).map (·.1)
        let mark := ((a.value? 'd').bind (·.toList.head?)).getD '\t'
        filter "cut" a.operands fun text =>
          unlines ((linesOf text).1.filterMap fun l =>
            if !byField then some (String.ofList (chosen l.toList))
            else if l.toList.contains mark then
              let joint := (a.value? 'o').getD (String.singleton mark)
              some (String.intercalate joint ((chosen (Text.splitAt mark l.toList)).map String.ofList))
            else if a.has 's' then none else some l)

def setCharacter : List Char → Option (Char × List Char)
  | [] => none
  | '\\' :: rest =>
    let (c, n) := escapeAt false rest
    if n = 0 then match rest with
      | d :: more => some (d, more)
      | [] => some ('\\', [])
    else some (c, rest.drop n)
  | c :: rest => some (c, rest)

/-- The characters of a set: single ones, ranges, classes, and one that is repeated up to some length. -/
def charactersOf (fuel : Nat) (length : Nat) (cs : List Char) : List Char :=
  match fuel with
  | 0 => []
  | fuel + 1 =>
    let kind := match cs with
      | '[' :: ':' :: _ =>
        Glob.kinds.find? fun (k : String × (Char → Bool)) => ("[:" ++ k.1 ++ ":]").toList.isPrefixOf cs
      | _ => none
    match kind with
    | some (name, p) =>
      ((List.range 256).map Char.ofNat).filter p ++ charactersOf fuel length (cs.drop (name.length + 4))
    | none =>
      let repeated := match cs with
        | '[' :: c :: '*' :: rest =>
          let digits := rest.takeWhile Char.isDigit
          match rest.drop digits.length with
          | ']' :: after => some (c, (String.ofList digits).toNat?, after)
          | _ => none
        | _ => none
      match repeated with
      | some (c, n, after) =>
        let tail := charactersOf fuel length after
        List.replicate (n.getD (length - tail.length)) c ++ tail
      | none =>
        match setCharacter cs with
        | none => []
        | some (c, '-' :: rest) =>
          match setCharacter rest with
          | some (d, rest) =>
            ((List.range (d.toNat + 1)).drop c.toNat).map Char.ofNat ++ charactersOf fuel length rest
          | none => [c, '-']
        | some (c, rest) => c :: charactersOf fuel length rest

def translating : Action := fun args =>
  let usage : Usage := {
    plain := "dscCt", mixed := false
    long := [("delete", 'd'), ("squeeze-repeats", 's'), ("complement", 'c')] }
  usage.handle "tr" args fun a => do
    match a.operands with
    | [] => misused "tr" "missing operand"
    | first :: more =>
      let deletes := a.has 'd'
      let squeezes := a.has 's'
      if more.isEmpty && !deletes && !squeezes then
        warn "tr" ("missing operand after '" ++ first ++ "'")
        Action.note "Two strings must be given when translating."
        Action.note "Try 'tr --help' for more information."
        return 1
      else
        let given := charactersOf (first.length + 1) 0 first.toList
        let old := if a.has 'c' || a.has 'C' then ((List.range 256).map Char.ofNat).filter (!given.contains ·) else given
        let second := more.headD ""
        let new := charactersOf (second.length + 1) old.length second.toList
        let new := if new.length < old.length then
            new ++ List.replicate (old.length - new.length) (new.getLast?.getD 'x') else new
        let pairs := (old.zip new).reverse
        let text := (Raw.ofBytes (← readAll 0)).toList
        let text := if deletes then text.filter (!old.contains ·)
          else if more.isEmpty then text
          else text.map fun c => (pairs.lookup c).getD c
        let squeezed := if more.isEmpty then old else new
        let text := if squeezes then
            (text.foldl (fun (kept : List Char) c =>
              if kept.head? == some c && squeezed.contains c then kept else c :: kept) []).reverse
          else text
        write 1 (String.ofList text)
        return 0

def pasting : Action := fun args =>
  let usage : Usage := { plain := "s", valued := "d", long := [("serial", 's'), ("delimiters", 'd')] }
  usage.handle "paste" args fun a => do
    let marks := charactersOf 1000 0 ((a.value? 'd').getD "\t").toList
    let joined (pieces : List String) : String :=
      String.join ((pieces.zipIdx).map fun (p, i) =>
        if i = 0 then p else (marks[(i - 1) % max marks.length 1]?.map String.singleton).getD "" ++ p)
    let inputs := a.operands.filter (· == "-")
    let (found, good) ← contents "paste" a.operands
    if !good then return 1
    let shared := (found.find? (·.1 == "-")).elim [] fun f => (linesOf f.2).1
    let share (k : Nat) : List String :=
      (shared.zipIdx.filter fun (_, i) => i % max inputs.length 1 == k).map (·.1)
    let (files, _) := found.foldl (fun (files, k) (path, text) =>
      if path == "-" && !a.has 's' then (files ++ [share k], k + 1) else (files ++ [(linesOf text).1], k)) ([], 0)
    if a.has 's' then write 1 (unlines (files.map joined))
    else
      let height := files.foldl (fun n f => max n f.length) 0
      write 1 (unlines ((List.range height).map fun i => joined (files.map fun f => f.getD i "")))
    return 0

def folding : Action := fun args =>
  let usage : Usage := { plain := "sb", valued := "w", counted := some 'w', long := [("width", 'w')] }
  usage.handle "fold" args fun a => do
    let width := max 1 (((a.value? 'w').bind String.toNat?).getD 80)
    let rec pieces (fuel : Nat) (cs : List Char) : List String :=
      match fuel with
      | 0 => []
      | fuel + 1 =>
        if cs.length ≤ width then [String.ofList cs]
        else String.ofList (cs.take width) :: pieces fuel (cs.drop width)
    eachLine "fold" a.operands fun l => String.intercalate "\n" (pieces (l.length + 1) l.toList)

def doubling : Action := fun args =>
  let usage : Usage := { plain := "ai", long := [("append", 'a')] }
  usage.handle "tee" args fun a => do
    let text := Raw.ofBytes (← readAll 0)
    write 1 text
    let mut status := 0
    for path in a.operands do
      let s ← get
      match s.tree.walk s.here (Raw.toText path) with
      | .ok (.name parent last false) =>
        let l := parent ++ [last]
        match s.tree.node? l with
        | some .directory =>
          warn "tee" (path ++ ": Is a directory")
          status := 1
        | some (.file old executable) =>
          let front := if a.has 'a' then old else []
          set { s with tree := s.tree.put l (.file (front ++ Raw.toBytes text) executable) }
        | none => set { s with tree := s.tree.put l (.file (Raw.toBytes text) false) }
      | .ok _ =>
        warn "tee" (path ++ ": Is a directory")
        status := 1
      | .error e =>
        warn "tee" (path ++ ": " ++ Action.errorText e)
        status := 1
    return status

structure Order where
  numeric : Bool := false
  reversed : Bool := false
  folded : Bool := false
  blanks : Bool := false

def Order.ofLetters (cs : List Char) : Order :=
  { numeric := cs.contains 'n' || cs.contains 'g', reversed := cs.contains 'r', folded := cs.contains 'f', blanks := cs.contains 'b' }

/-- The number at the beginning of a text, in units of its last place: an integer and a count of places. -/
def leadingNumber (s : String) : Int × Nat :=
  let cs := s.toList.dropWhile Numeral.isBlank
  let (negative, cs) := match cs with
    | '-' :: rest => (true, rest)
    | cs => (false, cs)
  let (whole, rest) := Numeral.digits 10 cs
  let fraction := match rest with
    | '.' :: rest => (Numeral.digits 10 rest).1
    | _ => []
  let n : Int := (Numeral.value 10 (whole ++ fraction) : Nat)
  (if negative then -n else n, fraction.length)

def Order.compare (o : Order) (a b : String) : Ordering :=
  let result :=
    if o.numeric then
      let (m, p) := leadingNumber a
      let (n, q) := leadingNumber b
      Ord.compare (m * Nat.pow 10 q) (n * Nat.pow 10 p)
    else
      let trim (s : String) : String := if o.blanks then String.ofList (s.toList.dropWhile Numeral.isBlank) else s
      let shape (s : String) : String := if o.folded then (trim s).map Char.toUpper else trim s
      Ord.compare (shape a) (shape b)
  if o.reversed then result.swap else result

/-- A part of a line by which lines are sorted: fields and characters in them, from one place to another. -/
structure SortKey where
  first : Nat × Nat
  last : Option (Nat × Nat)
  order : Option Order

def SortKey.ofText? (s : String) : Option SortKey := do
  let place (cs : List Char) : Option ((Nat × Option Nat) × List Char) := do
    let (n, rest) ← Numeral.decimal? cs
    match rest with
    | '.' :: rest =>
      let (c, rest) ← Numeral.decimal? rest
      return ((n, some c), rest)
    | rest => return ((n, none), rest)
  let ((field, character), rest) ← place s.toList
  let (letters, rest) := rest.span Char.isAlpha
  match rest with
  | [] => return ⟨(field, character.getD 1), none, if letters.isEmpty then none else some (.ofLetters letters)⟩
  | _ :: rest =>
    let ((toField, toCharacter), more) ← place rest
    let letters := letters ++ more
    return ⟨(field, character.getD 1), some (toField, toCharacter.getD 0),
      if letters.isEmpty then none else some (.ofLetters letters)⟩

/-- The fields of a line: between marks, or with the blanks that are in front of each. -/
def sortFields (mark : Option Char) (l : String) : List String :=
  match mark with
  | some c => (Text.splitAt c l.toList).map String.ofList
  | none =>
    let rec go (fuel : Nat) (cs : List Char) : List String :=
      match fuel, cs with
      | 0, _ | _, [] => []
      | fuel + 1, cs =>
        let (blanks, rest) := cs.span Numeral.isBlank
        let (word, rest) := rest.span (!Numeral.isBlank ·)
        String.ofList (blanks ++ word) :: go fuel rest
    go (l.length + 1) l.toList

def SortKey.part (k : SortKey) (mark : Option Char) (l : String) : String :=
  let joint := (mark.map String.singleton).getD ""
  let fields := sortFields mark l
  let fields := match k.last with
    | some (n, c) =>
      let kept := fields.take n
      if c = 0 then kept else kept.dropLast ++ (kept.getLast?.map fun (f : String) => String.ofList (f.toList.take c)).toList
    | none => fields
  let text := String.intercalate joint (fields.drop (k.first.1 - 1))
  String.ofList (text.toList.drop (k.first.2 - 1))

def sorting : Action := fun args =>
  let usage : Usage := {
    plain := "nrufbsgdicmhVz", valued := "ktoST", misuse := 2
    long := [("numeric-sort", 'n'), ("reverse", 'r'), ("unique", 'u'), ("key", 'k'), ("field-separator", 't'),
      ("ignore-case", 'f'), ("stable", 's'), ("output", 'o'), ("check", 'c')] }
  usage.handle "sort" args fun a => do
    let overall := Order.ofLetters (a.options.map (·.1))
    let mark := (a.value? 't').bind (·.toList.head?)
    let keys := (a.values 'k').filterMap SortKey.ofText?
    if a.has 'c' && 1 < a.operands.length then
      warn "sort" ("extra operand '" ++ a.operands.getD 1 "" ++ "' not allowed with -c")
      return 2
    let byKeys (x y : String) : Ordering :=
      if keys.isEmpty then overall.compare x y
      else keys.foldl (fun result k =>
        if result != .eq then result
        else (k.order.getD overall).compare (k.part mark x) (k.part mark y)) .eq
    let ordered (x y : String) : Bool :=
      match byKeys x y with
      | .lt => true
      | .gt => false
      | .eq =>
        if a.has 's' || a.has 'u' then true
        else if overall.reversed then decide (y ≤ x) else decide (x ≤ y)
    let (found, good) ← contents "sort" a.operands fun path reason =>
      (if a.has 'c' then "open failed: " else "cannot read: ") ++ path ++ reason
    if !good then return 2
    let lines := found.flatMap fun f => (linesOf f.2).1
    if a.has 'c' then
      let disorder := (lines.zip lines.tail).zipIdx.find? fun ((x, y), _) =>
        byKeys x y == .gt || (a.has 'u' && byKeys x y == .eq)
      match disorder with
      | none => return 0
      | some ((_, y), i) =>
        warn "sort" (a.operands.headD "-" ++ ":" ++ toString (i + 2) ++ ": disorder: " ++ y)
        return 1
    else
      let sorted := lines.mergeSort ordered
      let kept := if a.has 'u' then
          (sorted.foldl (fun (kept : List String) l =>
            if (kept.head?.map fun k => byKeys k l) == some .eq then kept else l :: kept) []).reverse
        else sorted
      match a.value? 'o' with
      | none => write 1 (unlines kept)
      | some path =>
        let s ← get
        if let .ok (.name parent last false) := s.tree.walk s.here (Raw.toText path) then
          set { s with tree := s.tree.put (parent ++ [last]) (.file (Raw.toBytes (unlines kept)) false) }
      return 0

def dumping : Action := fun args =>
  let usage : Usage := { plain := "cbvxo", valued := "AtNjw", long := [("address-radix", 'A'), ("format", 't')] }
  usage.handle "od" args fun a => do
    let (found, good) ← contents "od" a.operands
    let bytes := (String.join (found.map (·.2))).toList.map Char.toNat
    let form := if a.has 'c' then "c" else if a.has 'b' then "o1" else if a.has 'x' then "x2" else (a.value? 't').getD "o2"
    let letters : List (Nat × String) := [(0, "\\0"), (7, "\\a"), (8, "\\b"), (9, "\\t"), (10, "\\n"), (11, "\\v"),
      (12, "\\f"), (13, "\\r")]
    let digits (base width n : Nat) : String := String.ofList (Text.padStart width '0' (Nat.toDigits base n))
    let byte (b : Nat) : String :=
      match form with
      | "c" => rightAligned 4 ((letters.lookup b).getD
          (if 32 ≤ b && b < 127 then String.singleton (Char.ofNat b) else digits 8 3 b))
      | "x1" => " " ++ digits 16 2 b
      | "u1" => rightAligned 4 (toString b)
      | "d1" => rightAligned 5 (toString (if b < 128 then (b : Int) else (b : Int) - 256))
      | _ => " " ++ digits 8 3 b
    let pair (low high : Nat) : String :=
      let n := low + 256 * high
      if form = "x2" || form = "x" then " " ++ digits 16 4 n else " " ++ digits 8 6 n
    let rec row : List Nat → String
      | [] => ""
      | [b] => pair b 0
      | b :: c :: rest => pair b c ++ row rest
    let rec rows (fuel offset : Nat) (bytes : List Nat) : List (Nat × String) :=
      match fuel with
      | 0 => []
      | fuel + 1 =>
        if bytes.isEmpty then [(offset, "")]
        else
          let line := bytes.take 16
          let shown := if form.endsWith "2" then row line else String.join (line.map byte)
          (offset, shown) :: rows fuel (offset + line.length) (bytes.drop 16)
    let hidden := a.value? 'A' == some "n"
    let shown := (rows (bytes.length + 2) 0 bytes).filterMap fun (offset, line) =>
      if hidden then if line.isEmpty then none else some line else some (digits 8 7 offset ++ line)
    write 1 (unlines shown)
    return if good then 0 else 1

def lineTools : List (String × Action) := [
  ("cat", concatenating), ("tac", reversing), ("rev", mirroring), ("head", beginning), ("tail", finishing),
  ("wc", counting), ("nl", numbering), ("uniq", dropping), ("cut", cutting), ("tr", translating), ("paste", pasting),
  ("fold", folding), ("tee", doubling), ("sort", sorting), ("od", dumping)]

end Lexicon.Shell.Tool

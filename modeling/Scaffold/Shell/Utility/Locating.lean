import Scaffold.Shell.Utility.Basic
import Scaffold.Shell.Utility.Filing
import Scaffold.Shell.Utility.Timing

/-!
# Telling about files

Utilities that follow links and paths: `readlink` shows where a link leads, and `realpath` shows
paths without links. The utility `stat` tells what is known about files in a form: a mark and a
letter stand for one thing that is known (`statField`), filled up to a width.
-/

set_option autoImplicit false

namespace Scaffold.Shell.Utility

open Text (Octets)

/-- The steps that lead from a directory to a location. -/
def relativePath (directory location : Location) : Octets :=
  let shared := ((directory.zip location).takeWhile fun (one, two) ↦ one == two).length
  let up := List.replicate (directory.length - shared) "..".toList
  let down := (location.drop shared).map Octets.ofText
  let path := ((up ++ down).intersperse ['/']).flatten
  if path.isEmpty then ['.'] else path

/-- The location that the steps of a path lead to, where what is not there is passed over as it is
written. -/
def lexicalLocation (tree : FileTree) (here : Location) (follows : Bool) (path : Octets) :
    Location :=
  let start : Location := if path.head? = some '/' then [] else here
  (Text.pieces (· == '/') path).foldl (fun location part ↦
    if part.isEmpty || part == ['.'] then location
    else if part == ['.', '.'] then location.dropLast
    else
      match if follows then tree.locate location (pathOf part) true else .error .notFound with
      | .ok found => found
      | .error _ => location ++ [Octets.toText part]) start

/-- How much of a path has to be there. -/
inductive Strictness
  | all
  | allButLast
  | nothing
  deriving DecidableEq, Repr

/-- The absolute path of an operand without links. -/
def absolute? (task : Task) (operand : Octets) (strictness : Strictness) (follows : Bool) :
    Except SystemError Octets :=
  if operand.isEmpty then .error .notFound
  else if strictness = .nothing then
    .ok (locationText (lexicalLocation task.tree task.here follows operand))
  else if !follows then
    let location := lexicalLocation task.tree task.here false operand
    match task.tree.locate task.here (pathOf operand) true, strictness with
    | .error error, .all => .error error
    | _, _ => .ok (locationText location)
  else
    match task.tree.locate task.here (pathOf operand) true with
    | .ok location => .ok (locationText location)
    | .error .notFound =>
      if strictness = .all then .error .notFound
      else
        match task.tree.locateWritable FileTree.linkLimit task.here
            (pathOf (withoutSlashes operand)) with
        | .ok location => .ok (locationText location)
        | .error .notDirectory => .error .notFound
        | .error error => .error error
    | .error error => .error error

/-- The strictness that options ask for. -/
def strictnessOf (options : Options) : Strictness :=
  match (options.found.reverse.find? fun entry ↦ ['e', 'm', 'f'].contains entry.1).map (·.1) with
  | some 'e' => .all
  | some 'm' => .nothing
  | _ => .allButLast

/-- Shows where links lead. -/
def readlink : Utility :=
  ofOptions "readlink" ⟨['f', 'e', 'm', 'n', 'q', 's', 'v', 'z'], [],
    [("canonicalize", 'f'), ("canonicalize-existing", 'e'), ("no-newline", 'n'),
      ("canonicalize-missing", 'm'), ("zero", 'z'), ("verbose", 'v')], false⟩ 1 fun task options ↦
    if options.operands.isEmpty then task.misuse 1 "missing operand"
    else
      let isWhole := options.has 'f' || options.has 'e' || options.has 'm'
      let written := options.operands.map fun operand ↦
        let result : Except SystemError Octets :=
          if isWhole then absolute? task operand (strictnessOf options) true
          else
            match task.tree.locate task.here (pathOf operand) false with
            | .ok location =>
              match task.tree.find? location with
              | some (.link target) => .ok (Octets.ofText target.text)
              | _ => .error .notDirectory
            | .error error => .error error
        match result with
        | .ok path =>
          let isLast := options.has 'n' && options.operands.length = 1
          (1, path ++ if isLast then [] else if options.has 'z' then ['\x00'] else ['\n'])
        | .error error =>
          let reason :=
            if error == .notDirectory && !isWhole then "Invalid argument" else error.reason
          (2, if options.has 'v' then task.message (operand ++ (": " ++ reason).toList) else [])
      let several := options.has 'n' && options.operands.length > 1
      let warning := task.message "ignoring --no-newline with multiple arguments".toList
      task.finishAll (if written.any (·.1 == 2) then 1 else 0)
        ((if several then [(2, warning)] else []) ++ written) false

/-- Shows absolute paths without links. -/
def realpath : Utility :=
  ofOptions "realpath" ⟨['e', 'm', 'q', 's', 'z', 'L', 'P'], ['t', 'b'],
    [("canonicalize-existing", 'e'), ("canonicalize-missing", 'm'), ("quiet", 'q'),
      ("strip", 's'), ("no-symlinks", 's'), ("zero", 'z'), ("relative-to", 't'),
      ("relative-base", 'b')], false⟩ 1 fun task options ↦
    if options.operands.isEmpty then task.misuse 1 "missing operand"
    else
      let locationOf := lexicalLocation task.tree task.here true
      let base? := (options.value? 'b').map locationOf
      let directory? := ((options.value? 't').map locationOf).or base?
      let written := options.operands.map fun operand ↦
        match absolute? task operand (strictnessOf options) (!options.has 's') with
        | .ok path =>
          let location := lexicalLocation task.tree [] true path
          let shown :=
            match directory? with
            | some directory =>
              let isWithin := base?.all fun base ↦
                base.isPrefixOf location && base.isPrefixOf directory
              if isWithin then relativePath directory location else path
            | none => path
          (1, shown ++ if options.has 'z' then ['\x00'] else ['\n'])
        | .error error => (2, if options.has 'q' then [] else task.refusal operand error)
      task.finishAll (if written.any (·.1 == 2) then 1 else 0) written false

/-- The utilities that tell where files are. -/
def ofLocating : List Utility :=
  [readlink, realpath]

/-! ### What is known about files -/

/-- What stands in the place of a letter in a form of `stat`. -/
def statField (task : Task) (file : Listed) (letter : Char) : Octets :=
  let record := task.records.of file.location file.entry
  let number := Number.digits 10
  let seconds := (record.changed.fdiv 1000000).toNat
  let time := task.timeText "%Y-%m-%d %H:%M:%S.%N %z".toList record.changed
  let kindBits := match file.entry with
    | .directory => 16384
    | .file _ _ => if record.isPipe then 4096 else 32768
    | .link _ => 40960
  match letter with
  | 'n' => file.name
  | '\x01' =>
    match file.entry with
    | .link target => file.name ++ " -> ".toList ++ Octets.ofText target.text
    | _ => file.name
  | 'N' =>
    match file.entry with
    | .link target => inQuotes file.name ++ " -> ".toList ++ inQuotes (Octets.ofText target.text)
    | _ => inQuotes file.name
  | 's' => number (sizeOf file.entry)
  | 'a' => Number.digits 8 record.rights
  | 'A' => kindLetter record file.entry :: Rights.text record.rights
  | 'f' => Number.digits 16 (kindBits + record.rights)
  | 'F' => (kindName record file.entry).toList
  | 'h' => number (namesOf task.tree task.records file.location file.entry)
  | 'u' | 'g' => ['0']
  | 'U' | 'G' => "root".toList
  | 'i' => number (numberOf task.tree task.records file.location file.entry)
  | 'b' => number (2 * blocksOf file.entry)
  | 'B' => number 512
  | 'o' => number 4096
  | 'd' => number 64
  | 'D' => number 40
  | 't' | 'T' => ['0']
  | 'X' | 'Y' | 'Z' => number seconds
  | 'W' => ['0']
  | 'w' => time
  | 'm' => ['/']
  | 'x' | 'y' | 'z' => time
  | '%' => ['%']
  | _ => ['?']

/-- What is known about a file in a form; backslashes count if `escapes`. -/
def statText (task : Task) (file : Listed) (escapes : Bool) : (left : Nat) → Octets → Octets
  | 0, _ => []
  | _ + 1, [] => []
  | left + 1, '%' :: rest =>
    let flags := rest.takeWhile fun c ↦ ['-', '0', ' ', '+', '#'].contains c
    let after := rest.drop flags.length
    let width := after.takeWhile Char.isDigit
    let after := after.drop width.length
    let places := (after.drop 1).takeWhile Char.isDigit
    let hasPlaces := after.head? == some '.'
    match if hasPlaces then after.drop (places.length + 1) else after with
    | letter :: after =>
      let shown := statField task file letter
      let shown :=
        if !hasPlaces then shown
        else if ['X', 'Y', 'Z', 'W'].contains letter then
          let time := (task.records.of file.location file.entry).changed
          let count := if places.isEmpty then 9 else Text.digitsValue 10 places
          let digits := (Number.digits 10 (1000000 + (time.fmod 1000000).toNat)).drop 1
          shown ++ if count = 0 then []
            else '.' :: (digits ++ List.replicate (count - 6) '0').take count
        else shown.take (Text.digitsValue 10 places)
      let gap := Text.digitsValue 10 width - shown.length
      let filled :=
        if flags.contains '-' then shown ++ List.replicate gap ' '
        else List.replicate gap (if flags.contains '0' then '0' else ' ') ++ shown
      filled ++ statText task file escapes left after
    | [] => ['%']
  | left + 1, '\\' :: c :: rest =>
    let known := [('n', '\n'), ('t', '\t'), ('\\', '\\'), ('\x22', '\x22'), ('a', '\x07'),
      ('b', '\x08'), ('e', '\x1b'), ('f', '\x0c'), ('r', '\r'), ('v', '\x0b')]
    let octal := ((c :: rest).take 3).takeWhile Number.isOctal
    let hexadecimal := (rest.take 2).takeWhile Number.isHexadecimal
    if !escapes then '\\' :: statText task file escapes left (c :: rest)
    else if !octal.isEmpty then
      Char.ofNat (Text.digitsValue 8 octal % 256) ::
        statText task file escapes left ((c :: rest).drop octal.length)
    else if c = 'x' ∧ !hexadecimal.isEmpty then
      Char.ofNat (Text.digitsValue 16 hexadecimal) ::
        statText task file escapes left (rest.drop hexadecimal.length)
    else (known.lookup c).getD c :: statText task file escapes left rest
  | left + 1, c :: rest => c :: statText task file escapes left rest

/-- Tells what is known about files. -/
def stat : Utility :=
  ofOptions "stat" ⟨['L', 't', 'f'], ['c', '!'],
    [("format", 'c'), ("printf", '!'), ("dereference", 'L'), ("terse", 't')], false⟩ 1
    fun task options ↦
    if options.operands.isEmpty then task.misuse 1 "missing operand"
    else
      let terse := "%n %s %b %f %u %g 40 %i %h 0 0 %X %Y %Z %W %o\n"
      let standard := "  File: %\x01\n  Size: %-10s\tBlocks: %-10b IO Block: %-6o %F\n" ++
        "Device: 0,64\tInode: %-11i Links: %h\nAccess: (%04a/%10A)  Uid: (%5u/%8U)   " ++
        "Gid: (%5g/%8G)\nAccess: %x\nModify: %y\nChange: %z\n Birth: %w\n"
      let written := options.operands.map fun operand ↦
        let isDash := operand == ['-']
        match task.tree.locate task.here (pathOf operand) (options.has 'L') with
        | .error error =>
          if isDash then (1, []) else (2, task.message (aboutOperand "cannot statx" operand error))
        | .ok location =>
          match task.tree.find? location with
          | none => (2, task.message (aboutOperand "cannot statx" operand .notFound))
          | some entry =>
            let file : Listed := ⟨operand, location, entry⟩
            match options.value? '!', options.value? 'c' with
            | some form, _ => (1, statText task file true (form.length + 1) form)
            | none, some form => (1, statText task file false (form.length + 1) form ++ ['\n'])
            | none, none =>
              let form := if options.has 't' then terse else standard
              (1, statText task file false 1000 form.toList)
      task.finishAll (if written.any (·.1 == 2) then 1 else 0) written false

/-- The utilities that describe files. -/
def ofDescribing : List Utility :=
  [stat]

end Scaffold.Shell.Utility

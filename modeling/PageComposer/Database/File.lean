import PageComposer.Fault
import PageComposer.Text.Blank
import PageComposer.Text.Percent

/-!
# Files of databases

A database is kept in memory or in a file.  A file is named by a path, or by a reference that
begins with `file:` and may have options.  A file can be made in a directory that is there;
no database is there before it is made.
-/

namespace PageComposer.Database

/-- How a file is to be opened. -/
structure Opening where
  path : List Char
  /-- The database is in memory. -/
  inMemory : Bool
  /-- A file that is not there is made. -/
  makes : Bool
  deriving DecidableEq, Repr

namespace Opening

/-- The path of a database in memory. -/
def memoryPath : List Char := ":memory:".toList

/-- The opening of a path. -/
def ofPath (path : List Char) : Opening := ⟨path, path = memoryPath, true⟩

/-- The directories that every system has. -/
def directories : List String := [
  "/", "/bin", "/boot", "/dev", "/dev/shm", "/etc", "/home", "/lib", "/media", "/mnt", "/opt",
  "/proc", "/root", "/run", "/sbin", "/srv", "/sys", "/tmp", "/usr", "/usr/bin", "/usr/lib",
  "/usr/local", "/usr/share", "/var", "/var/cache", "/var/lib", "/var/log", "/var/tmp"]

/-- The directories of those in which nothing can be made. -/
def closedDirectories : List String := ["/proc", "/sys"]

/-- The longest name of a file, in bytes; a journal beside it has eight more. -/
def longestName : Nat := 247

/-- Take the steps of a path: a dot stays, and two dots go back where there is a way back. -/
def walk (absolute : Bool) (taken : List String) : List String → List String
  | [] => taken
  | "" :: rest | "." :: rest => walk absolute taken rest
  | ".." :: rest =>
      match taken with
      | [] => walk absolute (if absolute then [] else [".."]) rest
      | ".." :: _ => walk absolute (".." :: taken) rest
      | _ :: before => walk absolute before rest
  | step :: rest => walk absolute (step :: taken) rest

/-- A file can be made at a path: its directory is there, and it is no directory itself. -/
def isMakeable (path : List Char) : Bool :=
  let absolute := path.head? = some '/'
  match walk absolute [] (Text.pieces '/' (String.ofList path)) with
  | [] | ".." :: _ => false
  | name :: before =>
      let rooted (steps : List String) := "/" ++ String.intercalate "/" steps.reverse
      let directory := rooted before
      (Text.bytesOf name).length ≤ longestName
        && if absolute then
          directories.contains directory && !closedDirectories.contains directory
            && !directories.contains (rooted (name :: before))
        else before.all (· = "..")

/-- Why the database does not open, if it does not. -/
def obstacle? (opening : Opening) : Option String :=
  if opening.inMemory || opening.path.isEmpty
      || (opening.makes && isMakeable opening.path) then none
  else some "unable to open database file"

end Opening

/-- What a reference to a file consists of: the path, then the names and values of the
options. -/
inductive ReferencePart where
  | path
  | name
  | value
  deriving DecidableEq, Repr

namespace Opening

/-- A part comes to its end at this character. -/
def ends (part : ReferencePart) (char : Char) : Bool :=
  match part with
  | .path => char = '?'
  | .name => char = '=' || char = '&'
  | .value => char = '&'

/-- Add bytes in front of those read so far, last first, if they count. -/
def taking (counts : Bool) (read bytes : List Nat) : List Nat :=
  if counts then bytes.reverse ++ read else read

/-- One part of a reference up to its end, and what follows.  A byte in base sixteen stands
for itself, and after the byte zero the rest of the part does not count. -/
def partOf (part : ReferencePart) (counts : Bool) (read : List Nat) :
    List Char → List Nat × List Char
  | [] => (read.reverse, [])
  | '%' :: first :: second :: others =>
      match Text.hexNumber? 0 [first, second] with
      | some 0 => partOf part false read others
      | some byte => partOf part counts (taking counts read [byte]) others
      | none => partOf part counts (taking counts read [0x25]) (first :: second :: others)
  | char :: rest =>
      if ends part char then (read.reverse, char :: rest)
      else
        partOf part counts (taking counts read (Text.bytesOf (String.singleton char))) rest

/-- The bytes of a text as characters; what is no character is replaced. -/
def textOfBytes (bytes : List Nat) : List Char :=
  Text.percentDecode none (bytes.flatMap Text.percentByte)

/-- The options of a reference, of which those without a name are left out. -/
def optionsOf (steps : Nat) (chars : List Char) : List (List Char × List Char) :=
  match steps with
  | 0 => []
  | steps + 1 =>
      match chars with
      | [] => []
      | chars =>
          let (name, rest) := partOf .name true [] chars
          let (value, rest) :=
            match rest with
            | '=' :: rest => partOf .value true [] rest
            | rest => ([], rest)
          let others := optionsOf steps (rest.drop 1)
          if name.isEmpty then others else (textOfBytes name, textOfBytes value) :: others

/-- The mark of a reference. -/
def referenceMark : List Char := "file:".toList

/-- The path and the options of a reference behind its mark; only this host may be named. -/
def withoutHost (reference : List Char) : Except String (List Char) :=
  match reference with
  | '/' :: '/' :: rest =>
      let (host, rest) := rest.span (· ≠ '/')
      if host.isEmpty || host = "localhost".toList then .ok rest
      else .error ("invalid uri authority: " ++ String.ofList host)
  | reference => .ok reference

/-- Take account of an option; unknown ones change nothing. -/
def withOption (opening : Opening) (option : List Char × List Char) : Except String Opening :=
  let value := String.ofList option.2
  match String.ofList option.1 with
  | "mode" =>
      match value with
      | "memory" => .ok { opening with inMemory := true, makes := true }
      | "rwc" => .ok { opening with inMemory := opening.path = memoryPath, makes := true }
      | "rw" | "ro" => .ok { opening with inMemory := opening.path = memoryPath, makes := false }
      | value => .error ("no such access mode: " ++ value)
  | "cache" =>
      if ["shared", "private"].contains value then .ok opening
      else .error ("no such cache mode: " ++ value)
  | _ => .ok opening

/-- The file systems that a reference may name. -/
def fileSystems : List String := ["unix", "unix-none", "unix-dotfile", "unix-excl", "memdb"]

/-- The file system that the options of a reference name last is a known one. -/
def checkFileSystem (options : List (List Char × List Char)) : Except String Unit :=
  match options.reverse.find? fun option => option.1 = "vfs".toList with
  | none => .ok ()
  | some (_, value) =>
      let name := String.ofList value
      if fileSystems.contains name then .ok () else .error ("no such vfs: " ++ name)

/-- The opening of a reference, or of a path if the text is no reference. -/
def ofReference (text : List Char) : Except String Opening :=
  if !referenceMark.isPrefixOf text then .ok (ofPath text)
  else do
    let reference ← withoutHost (text.drop referenceMark.length)
    let reference := reference.takeWhile (· ≠ '#')
    let (path, rest) := partOf .path true [] reference
    let options := optionsOf rest.length (rest.drop 1)
    let opening ← options.foldlM withOption (ofPath (textOfBytes path))
    checkFileSystem options
    return opening

end Opening

end PageComposer.Database

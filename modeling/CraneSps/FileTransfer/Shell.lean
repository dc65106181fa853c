import CraneSps.FileTransfer.FileHelper
import Mathlib.Logic.Function.Basic

/-!
# Commands that a shell runs

`SystemHelper::exec` leaves a command line to a shell, and the file service
writes paths into it without quotes.  The path of a file whose name is plain
reaches the command as it is.  What becomes of any other path depends on the
shell and on the directories of the machine.
-/

namespace CraneSps
namespace FileTransfer

/-- The files of a machine by path. -/
abbrev Disk := String → Option Bytes

namespace DFile

def fileRoot : String := "files/"

/-- Where the file service keeps a file. -/
def filePath (filename : String) : String :=
  fileRoot ++ filename

end DFile

/-- The characters that a shell may take for something else than themselves
within a word, those for which `md5sum` writes its output in another form, and
the separator of directories. -/
def specialChars : List Char :=
  "|&;<>()$`\\\"' \t\r\n*?[\x7b/".toList

/-- Every character of the name stands for itself. -/
def isPlain (filename : String) : Bool :=
  filename.toList.all fun char => !specialChars.contains char

/-- The first characters of a string, `substr(0, count)`. -/
def substr (text : String) (count : Nat) : String :=
  String.ofList (text.toList.take count)

/-- The disk after a file has been moved, if it is there. -/
def Disk.move (disk : Disk) (source destination : String) : Disk :=
  match disk source with
  | some content =>
      Function.update (Function.update disk source none) destination
        (some content)
  | none => disk

theorem Disk.move_of_ne
    {disk : Disk} {path source destination : String}
    (notSource : path ≠ source) (notDestination : path ≠ destination) :
    disk.move source destination path = disk path := by
  unfold Disk.move
  cases disk source with
  | some content =>
      simp only [Function.update_of_ne notDestination,
        Function.update_of_ne notSource]
  | none => rfl

theorem Disk.move_destination
    {disk : Disk} {source destination : String} {content : Bytes}
    (present : disk source = some content) :
    disk.move source destination destination = some content := by
  rw [Disk.move, present]
  exact Function.update_self _ _ _

/-- The shell of a machine, with the commands that the file service runs. -/
structure Shell where
  /-- The checksum of a content, as `md5sum` prints it. -/
  md5 : Bytes → String
  /-- A file can be created at the path, the disk has it under no other path,
  and a command that is given the path finds it. -/
  usable : String → Bool
  usable_of_plain : ∀ filename, isPlain filename = true →
    usable (DFile.filePath filename) = true
  /-- The output of `md5sum` with a path. -/
  md5sum : Disk → String → String
  md5sum_of_usable : ∀ disk path content, usable path = true →
    disk path = some content → substr (md5sum disk path) 32 = md5 content
  /-- The disk after `mv` with two paths. -/
  mv : Disk → String → String → Disk
  mv_of_usable : ∀ disk source destination, usable source = true →
    usable destination = true →
      mv disk source destination = disk.move source destination

namespace Shell

/-- A shell that runs commands only with usable paths. -/
def ofUsable
    (usable : String → Bool)
    (usable_of_plain : ∀ filename, isPlain filename = true →
      usable (DFile.filePath filename) = true)
    (md5sum : Bytes → String) : Shell where
  md5 := fun content => substr (md5sum content) 32
  usable := usable
  usable_of_plain := usable_of_plain
  md5sum := fun disk path =>
    if usable path then (disk path).elim "" md5sum else ""
  md5sum_of_usable := by
    intro disk path content isUsable present
    rw [if_pos isUsable, present, Option.elim_some]
  mv := fun disk source destination =>
    if usable source && usable destination then disk.move source destination
    else disk
  mv_of_usable := by
    intro disk source destination fromUsable toUsable
    rw [fromUsable, toUsable]
    rfl

/-- Every path is usable. -/
def literal (md5sum : Bytes → String) : Shell :=
  ofUsable (fun _ => true) (fun _ _ => rfl) md5sum

/-- Outside of the directory of the file service every path is usable, and in
it those of plain names. -/
def strict (md5sum : Bytes → String) : Shell :=
  ofUsable
    (fun path =>
      !DFile.fileRoot.toList.isPrefixOf path.toList ||
        isPlain (String.ofList
          (path.toList.drop DFile.fileRoot.toList.length)))
    (fun filename plain => by
      rw [DFile.filePath, String.toList_append, List.drop_left,
        String.ofList_toList, plain, Bool.or_true])
    md5sum

theorem strict_usable {md5sum : Bytes → String} {filename : String} :
    (strict md5sum).usable (DFile.filePath filename) = isPlain filename := by
  have inside : DFile.fileRoot.toList.isPrefixOf
      (DFile.fileRoot ++ filename).toList = true := by
    rw [List.isPrefixOf_iff_prefix, String.toList_append]
    exact List.prefix_append _ _
  simp only [strict, ofUsable, DFile.filePath, inside, Bool.not_true,
    Bool.false_or]
  rw [String.toList_append, List.drop_left, String.ofList_toList]

end Shell

end FileTransfer
end CraneSps

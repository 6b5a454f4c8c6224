import JdkFinder.Text.Blank
import JdkFinder.Text.Lowercase

/-!
# Platforms

An operating system and a processor architecture, under the names that catalogs use for them.
-/

namespace JdkFinder

/-- A platform, under the usual names of its parts. -/
structure Platform where
  os : String
  arch : String
  deriving DecidableEq, Repr

namespace Platform

/-- The names of operating systems that are used besides the usual one. -/
def osNames : List (String × String) :=
  [("win", "windows"), ("win32", "windows"), ("mac", "macos"), ("osx", "macos"),
   ("darwin", "macos")]

/-- The names of architectures that are used besides the usual one. -/
def archNames : List (String × String) :=
  [("x86_64", "x64"), ("amd64", "x64"), ("arm64", "aarch64"), ("i386", "x86"), ("i686", "x86"),
   ("x32", "x86")]

/-- A name without white space around it, in lower case, and replaced by the usual one. -/
def usualName (table : List (String × String)) (name : String) : String :=
  let name := String.ofList (Text.lowercase (Text.trim name.toList))
  (table.lookup name).getD name

/-- The usual name of an operating system. -/
def usualOs (name : String) : String :=
  usualName osNames name

/-- The usual name of an architecture. -/
def usualArch (name : String) : String :=
  usualName archNames name

/-- The platform with the given names. -/
def ofNames (os arch : String) : Platform :=
  ⟨usualOs os, usualArch arch⟩

/-- The platform that this program runs on. -/
def current : Platform :=
  ⟨"linux", "x64"⟩

/-- Whether the names mean this platform. -/
def isNamed (p : Platform) (os arch : String) : Bool :=
  usualOs os == p.os && usualArch arch == p.arch

instance : ToString Platform := ⟨fun p => p.os ++ "-" ++ p.arch⟩

end Platform

end JdkFinder

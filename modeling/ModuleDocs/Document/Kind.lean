import ModuleDocs.Text.Basic

namespace ModuleDocs.Document
open Text

inductive Kind where
  | readme
  | changelog
  | license
  | upgrade
  | introduction
  deriving DecidableEq, Repr

namespace Kind

def all : List Kind := [introduction, readme, changelog, upgrade, license]

theorem mem_all (k : Kind) : k ∈ all := by cases k <;> decide

def standard : List Kind := [readme, changelog, license]

def name : Kind → Text
  | readme => "readme"
  | changelog => "changelog"
  | license => "license"
  | upgrade => "upgrade"
  | introduction => "introduction"

def title : Kind → Text
  | readme => "Readme"
  | changelog => "Changelog"
  | license => "License"
  | upgrade => "Upgrade"
  | introduction => "Introduction"

def stem : Kind → Text
  | readme => "README"
  | changelog => "CHANGELOG"
  | license => "LICENSE"
  | upgrade => "UPGRADE"
  | introduction => "INTRODUCTION"

def isStandard (k : Kind) : Bool := standard.contains k

/-- The file name begins with the stem, in any letter case. -/
def matchesName (k : Kind) (fileName : Text) : Bool := sameName (fileName.take k.stem.length) k.stem

def ofName? (name : Text) : Option Kind := all.find? (fun k => k.name == name)

end Kind
end ModuleDocs.Document

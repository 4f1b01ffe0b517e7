/-
# Fixed phrases

Links into other namespaces begin with the namespace's name and a colon, which
Deki spells with a low line, and some sections of the project's documentation
have moved. Both are fixed replacements, applied in order: a phrase that begins
another stands behind it, or the longer one would never be found. Code samples
are marked in the same way.
-/

import DekiMigration.Markup.Span

namespace DekiMigration.Markup

/-- Beginnings of links, and redirections. -/
def linkPhrases : List (Text × Text) :=
  [("[Mono:About", "[About_Mono"),
   ("[Mono:Runtime:Documentation:ThreadSafety",
    "[Project_Mono_Runtime_Documentation_ThreadSafety"),
   ("[Mono:Runtime:Documentation:MemoryManagement",
    "[Project_Mono_Runtime_Documentation_MemoryMangement"),
   ("[Mono:Runtime:Documentation:GenericSharing",
    "[Project_Mono_Runtime_Documentation_GenericSharing"),
   ("[Mono:Runtime:Documentation:Generics", "[Project_Mono_Runtime_Documentation_Generics"),
   ("[Mono:Runtime:Documentation:RegisterAllocation",
    "[Project_Mono_Runtime_Documentation_RegisterAllocation"),
   ("[Mono:Runtime:Documentation:SoftDebugger",
    "[Project_Mono_Runtime_Documentation_SoftDebugger"),
   ("[Mono:Runtime:Documentation:mono-llvm.diff",
    "[Project_Mono_Runtime_Documentation_mono-llvm.diff"),
   ("[Mono:Runtime:Documentation:LLVM", "[Project_Mono_Runtime_Documentation_LLVM"),
   ("[Mono:Runtime:Documentation:XDEBUG", "[Project_Mono_Runtime_Documentation_XDEBUG"),
   ("[Mono:Runtime:Documentation:MiniPorting",
    "[Project_Mono_Runtime_Documentation_MiniPorting"),
   ("[Mono:Runtime:Documentation:AOT", "[Project_Mono_Runtime_Documentation_AOT"),
   ("[Mono:Runtime:Documentation:Trampolines",
    "[Project_Mono_Runtime_Documentation_Trampolines"),
   ("[Mono:Runtime:Documentation", "[Project_Mono_Runtime_Documentation"),
   ("[Mono:", "[Project_Mono_"),
   ("[Talk:", "[Talk_"),
   ("[User:", "[User_"),
   ("[Help:", "[Help_"),
   ("[Mono_Runtime", "[Runtime"),
   ("#REDIRECT", ">>>")].map fun (old, new) => (old.toList, new.toList)

/-- Marks around samples of code. -/
def codeMarks : List (Text × Text) :=
  [("<csharp>", "\n@@ csharp\n"),
   ("</csharp>", "\n@@\n"),
   ("<bash>", "\n@@ bash\n"),
   ("</bash>", "\n@@\n"),
   ("<xml>", "\n@@ xml\n"),
   ("</xml>", "\n@@\n")].map fun (old, new) => (old.toList, new.toList)

/-- Replaces the fixed beginnings of links, and redirections. -/
def replacePhrases (text : Text) : Text :=
  replaceInOrder linkPhrases text

/-- Fences samples of code off. -/
def fenceCode (text : Text) : Text :=
  replaceInOrder codeMarks text

end DekiMigration.Markup

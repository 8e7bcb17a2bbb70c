import StaticSite.Page.Script
import StaticSite.Text.Lines

/-!
# The built-in pages

The documentation of the project in three pages: home, download and questions. Prose without links
is Markdown; paragraphs with links are markup around link items.

The pages hold seven sections. They also refer to the sections `license`, `applet` and `links`,
which the configuration has to declare.
-/

namespace StaticSite

namespace Stock

/-! ### Home -/

/-- What the optimizer does. -/
def optimizerProse : String :=
  Text.unlines [
    "The optimizer transforms `class` files in various ways which can be",
    "controlled by a script file. It supports the following operations:",
    "",
    "- Renaming class, method, field and local names to shorter, obfuscated, or",
    "  unique names or according to a given translation table",
    "- Removing debugging information",
    "- Removing dead code (classes, fields, methods) and constant fields",
    "- Optimizing local variable allocation"]

/-- The known bugs of the decompiler. -/
def knownBugsProse : String :=
  Text.unlines [
    "Some JDK 1.3 synthetic access functions aren't understood. The produced",
    "source contains `access$xxx` functions, but it still compiles.",
    "",
    "There may be other bugs that cause exceptions or invalid code. If you have",
    "such a problem don't hesitate to file a bug report. Please include the",
    "`class` file if possible."]

/-- The limitations of the decompiler. -/
def limitationsProse : String :=
  Text.unlines [
    "If not all dependent classes can be found, the verifier (which is run before",
    "decompilation starts) may exit with a type error. You can decompile it with",
    "`--verify=off`, but take the warning seriously: types may be incorrect.",
    "There is sometimes no way to guess the right type if you don't have access to",
    "the full class hierarchy.",
    "",
    "This is not a bug in the verifier: java will complain the same way if it is",
    "run with bytecode verification turned on. And if you don't have the",
    "dependent classes, you can't compile the code again.",
    "",
    "There may be situations where the code doesn't understand complex",
    "expressions. In this case many ugly temporary variables are used, but the",
    "code should still be compilable. This especially happens when you compile",
    "with the `-O` flag and javac has inlined some methods."]

/-- The body of the home page. -/
def homeScript : Script :=
  [
    .raw "<p><i>",
    .projectName,
    .raw "</i> is a java package containing a decompiler and an optimizer for java. ",
    .raw "This package is ",
    .internal "license" (some "freely available"),
    .raw " under the GNU GPL. <b>New:</b> The bytecode package and the core decompiler is now ",
    .raw "under GNU Lesser General Public License, so you can integrate it in your project.</p>",
    .raw "<p>The decompiler reads in <tt>class</tt> files and produces something similar ",
    .raw "to the original <tt>java</tt> file. Of course this can't be perfect: there is ",
    .raw "no way to produce the comments or the names of local variables (except when ",
    .raw "compiled with debugging) and there are often more ways to write the same thing. ",
    .raw "However, <i>",
    .projectName,
    .raw "</i> does its job quite well, so you should give it a try and ",
    .internal "applet" (some "start the applet"),
    .raw ". It has support for all constructs of JDK 1.3 ",
    .raw "including inner and anonymous classes.</p>",
    .prose optimizerProse,
    .raw "<h2 id=\"news\">News</h2><ul><li><i>",
    .projectName,
    .raw "</i> ",
    .projectVersion,
    .raw " is out, with support for javac v8 (JDK 1.3).</li>",
    .raw "<li>The license changed to LGPL for the bytecode interface and decompiler.</li></ul>",
    .raw "<h2 id=\"known-bugs\">Known bugs of the decompiler</h2>",
    .prose knownBugsProse,
    .raw "<h2 id=\"limitations\">Limitations</h2>",
    .prose limitationsProse]

/-! ### Download -/

/-- How to build the project from its repository. -/
def buildFromSourceProse : String :=
  Text.unlines [
    "To build the sources from CVS change to the main directory where the",
    "`configure.in` file resides and run",
    "",
    "```",
    "aclocal && automake -a && autoconf",
    "```",
    "",
    "Afterwards follow the instructions in the `INSTALL` file."]

/-- The body of the download page. -/
def downloadScript : Script :=
  [
    .raw "<h1>Download</h1><p>Click ",
    .external "files/" (some "here"),
    .raw " to download the latest released source code of <i>",
    .projectName,
    .raw "</i>. You need several other packages to build <i>",
    .projectName,
    .raw "</i>, check the ",
    .internal "links" (some "links page"),
    .raw ".</p><h2 id=\"binaries\">Precompiled archives</h2>",
    .raw "<p>The simplest way to get it, especially for non unix users, is in precompiled ",
    .raw "form, though. There are two archives at the ",
    .archiveServer "ftp server",
    .raw ". You may need to press shift while clicking on the link, depending on your browser.",
    .raw "</p><ul><li>",
    .archive "-1.1",
    .raw " is for JDK\u00a01.1. It contains the collection classes from the GNU ",
    .raw "Classpath project. If you want to use the swing interface, you have to ",
    .raw "download swing separately.</li><li>",
    .archive "-1.2",
    .raw " is for JDK\u00a01.2 or better.</li></ul><h2 id=\"cvs\">CVS Repository</h2>",
    .raw "<p>You can get the latest sources from the ",
    .external "cvs/" (some "CVS repository"),
    .raw ". They may not always compile, though. If you want an older version you can use ",
    .raw "the <code>-r</code> option:</p>",
    .raw "<ul><li><code>-r jode_1_0_93</code>: gives you the version 1.0.93</li>",
    .raw "<li><code>-r branch_1_1</code>: gives you the latest version of the 1.1 series</li></ul>",
    .prose buildFromSourceProse]

/-! ### Questions -/

/-- Questions about the decompiler. -/
def decompilerProse : String :=
  Text.unlines [
    "### The decompiler crashes with a VerifyException, what can I do?",
    "",
    "The class isn't verifiable, probably because there is not enough information",
    "about used classes. See the question about the classpath.",
    "",
    "This could also be caused by malicious bytecode, or because there is a bug in",
    "the verifier.",
    "",
    "### What should be included in the classpath?",
    "",
    "The decompiler needs to know the full class hierarchy to guess the types.",
    "This includes not only the classes in the program, but also the libraries",
    "used by the java program, even the Java runtime library. You should set the",
    "classpath to include all these classes.",
    "",
    "If you don't specify the classpath on the command line, the same one as your",
    "Java Virtual Machine is used.",
    "",
    "As a last resort, if a class can't be found in the classpath, reflection is",
    "used to ask the Virtual Machine. This works quite well, but loading classes",
    "can have side effects, e.g. when AWT classes are loaded, an AWT thread is",
    "created even though the decompiler doesn't need it.",
    "",
    "### Why doesn't it decompile my inner class `MyClass$Inner.class`?",
    "",
    "You should decompile the outermost class (`MyClass` in this case). The",
    "produced code contains the inner class."]

/-- Questions about the obfuscator. -/
def obfuscatorProse : String :=
  Text.unlines [
    "### What should be included in the classpath?",
    "",
    "The program, all libraries, the Java runtime library. Don't omit a library",
    "even when you don't want to obfuscate it.",
    "",
    "### What should I preserve?",
    "",
    "The most common mistake is to preserve a class. In most cases this is not",
    "what you want. This only makes sure the class won't be renamed, it doesn't",
    "prevent it from being stripped. Instead you should preserve methods and",
    "constructors. The constructor is just a method with the special name",
    "`<init>`.",
    "",
    "Another common mistake is to omit the type signature, e.g. to preserve",
    "`Class.main` instead of `Class.main.([Ljava/lang/String;)V`. That doesn't",
    "work. If you don't want to care about the format of the type signature use a",
    "wildcard as in `Class.main.*`.",
    "",
    "### What is a type signature?",
    "",
    "The type signature is a machine readable representation of a java type that",
    "is used all over in java bytecode. The JDK ships a command named `javap`.",
    "With `javap -s` you can list the fields and methods of a class with their",
    "type signatures.",
    "",
    "If you are interested in the format of type signatures read the Java Virtual",
    "Machine Specification, Chapter 4.3 Descriptors."]

/-- The body of the page of questions. -/
def questionsScript : Script :=
  [
    .raw "<h1>FAQ - Frequently Asked Questions</h1>",
    .raw "<p>This is a list of some questions that pop up from time to time.</p><ul><li>",
    .internal "decompiler" (some "Decompiler issues"),
    .raw "</li><li>",
    .internal "obfuscator" (some "Obfuscator issues"),
    .raw "</li></ul><h2 id=\"decompiler\">Decompiler issues</h2>",
    .prose decompilerProse,
    .raw "<h2 id=\"obfuscator\">Obfuscator issues</h2>",
    .prose obfuscatorProse]

/-! ### The pages -/

/-- The home page. -/
def home : Page where
  slug := "index"
  title := "Home"
  sections := ["news", "known-bugs", "limitations"]
  body := homeScript.body

/-- The download page. -/
def download : Page where
  slug := "download"
  title := "Download"
  sections := ["binaries", "cvs"]
  body := downloadScript.body

/-- The page of questions. -/
def questions : Page where
  slug := "faq"
  title := "FAQ"
  sections := ["decompiler", "obfuscator"]
  body := questionsScript.body

/-- The built-in pages, in the order of the navigation bar. -/
def pages : List Page := [home, download, questions]

end Stock

end StaticSite

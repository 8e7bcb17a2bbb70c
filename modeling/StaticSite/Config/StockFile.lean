import StaticSite.Text.Lines

/-!
# The stock configuration file

A configuration file that says what holds without one, with a comment on every option.
-/

namespace StaticSite

/-- The lines of the stock configuration file. -/
def stockFileLines : List String :=
  [
    "# Project Pages Configuration",
    "# ===========================",
    "# All settings are optional. Values shown below are the defaults.",
    "# Unknown keys will cause an error.",
    "",
    "# ---------------------------------------------------------------------------",
    "# Project identity - read by every link helper",
    "# ---------------------------------------------------------------------------",
    "[project]",
    "name = \"jode\"",
    "",
    "# Current release; substituted into archive links.",
    "version = \"1.1\"",
    "",
    "# Project host. External project links are <host_base_url>/<path>.",
    "# \"\x7bproject\x7d\" is replaced with the project name.",
    "host_base_url = \"https://sourceforge.net/projects/\x7bproject\x7d\"",
    "",
    "# Binary archive server. Archive links are",
    "# <archive_base_url>/<name>-<version><suffix>.<archive_extension>",
    "# When unset, the stock host above uses its FTP mirror",
    "# ftp://\x7bproject\x7d.sourceforge.net/pub/\x7bproject\x7d and any other host is reused.",
    "# Set to \"\" to always reuse host_base_url.",
    "# archive_base_url = \"https://downloads.example.org/\x7bproject\x7d\"",
    "archive_extension = \"jar\"",
    "",
    "# ---------------------------------------------------------------------------",
    "# Page shell",
    "# ---------------------------------------------------------------------------",
    "[site]",
    "title = \"JODE\"",
    "tagline = \"Java Optimize and Decompile Environment\"",
    "lang = \"en\"",
    "",
    "# ---------------------------------------------------------------------------",
    "# Internal anchors",
    "# ---------------------------------------------------------------------------",
    "[links]",
    "# auto      - \"#id\" on the section's own page, \"page.html#id\" elsewhere",
    "# fragment  - always \"#id\"",
    "# qualified - always \"page.html#id\"",
    "anchor_style = \"auto\"",
    "",
    "# error - referencing an unknown section fails the build",
    "# warn  - log a warning and emit \"#id\"",
    "unknown_sections = \"error\"",
    "",
    "# ---------------------------------------------------------------------------",
    "# Sections hosted outside the built-in pages",
    "# ---------------------------------------------------------------------------",
    "[[sections]]",
    "id = \"links\"",
    "page = \"links\"",
    "",
    "[[sections]]",
    "id = \"license\"",
    "page = \"license\"",
    "",
    "[[sections]]",
    "id = \"applet\"",
    "page = \"applet\""]

/-- The text of the stock configuration file. -/
def stockFile : String :=
  Text.unlines stockFileLines

end StaticSite

import StaticSite.Text.Lines

/-!
# The style sheet

The rules that every page carries in its head, line by line.
-/

namespace StaticSite

/-- The lines of the style sheet. -/
def stylesheetLines : List String :=
  [
    ":root \x7b",
    "    --color-bg: #ffffff;",
    "    --color-text: #111111;",
    "    --color-text-muted: #666666;",
    "    --color-border: #e0e0e0;",
    "    --color-link: #1a4d8f;",
    "    --color-link-hover: #000000;",
    "    --content-width: 46rem;",
    "\x7d",
    "",
    "@media (prefers-color-scheme: dark) \x7b",
    "    :root \x7b",
    "        --color-bg: #0a0a0a;",
    "        --color-text: #eeeeee;",
    "        --color-text-muted: #999999;",
    "        --color-border: #333333;",
    "        --color-link: #8fb8ee;",
    "        --color-link-hover: #ffffff;",
    "    \x7d",
    "\x7d",
    "",
    "* \x7b",
    "    box-sizing: border-box;",
    "\x7d",
    "",
    "body \x7b",
    "    margin: 0;",
    "    background: var(--color-bg);",
    "    color: var(--color-text);",
    "    font-family: Georgia, \"Times New Roman\", serif;",
    "    line-height: 1.55;",
    "\x7d",
    "",
    "a \x7b",
    "    color: var(--color-link);",
    "\x7d",
    "",
    "a:hover \x7b",
    "    color: var(--color-link-hover);",
    "\x7d",
    "",
    ".site-header,",
    ".site-footer,",
    "main \x7b",
    "    max-width: var(--content-width);",
    "    margin: 0 auto;",
    "    padding: 1rem 1.5rem;",
    "\x7d",
    "",
    ".site-header \x7b",
    "    display: flex;",
    "    flex-wrap: wrap;",
    "    align-items: baseline;",
    "    justify-content: space-between;",
    "    border-bottom: 1px solid var(--color-border);",
    "\x7d",
    "",
    ".site-title a \x7b",
    "    font-weight: bold;",
    "    font-size: 1.4rem;",
    "    text-decoration: none;",
    "\x7d",
    "",
    ".site-title .tagline \x7b",
    "    margin-left: 0.75rem;",
    "    color: var(--color-text-muted);",
    "    font-style: italic;",
    "\x7d",
    "",
    ".site-nav ul \x7b",
    "    display: flex;",
    "    gap: 1rem;",
    "    margin: 0;",
    "    padding: 0;",
    "    list-style: none;",
    "\x7d",
    "",
    ".site-nav li.current a \x7b",
    "    color: var(--color-text);",
    "    text-decoration: none;",
    "    font-weight: bold;",
    "\x7d",
    "",
    "pre,",
    "code,",
    "tt \x7b",
    "    font-family: \"DejaVu Sans Mono\", Menlo, monospace;",
    "    font-size: 0.9em;",
    "\x7d",
    "",
    "pre \x7b",
    "    padding: 0.75rem 1rem;",
    "    border: 1px solid var(--color-border);",
    "    overflow-x: auto;",
    "\x7d",
    "",
    ".site-footer \x7b",
    "    border-top: 1px solid var(--color-border);",
    "    color: var(--color-text-muted);",
    "    font-size: 0.9rem;",
    "\x7d"]

/-- The text of the style sheet. -/
def stylesheet : String :=
  Text.unlines stylesheetLines

end StaticSite
